import GameShelf.Condition
import GameShelf.SortOrder

namespace GameShelf

structure Query where
  conditions : List Condition
  order : SortOrder
  deriving DecidableEq

namespace Query

def empty : Query := ⟨[], .byName⟩

/-- The conditions of an expression; its other parts are passed over. -/
def ofExpression (expression : String) : Query :=
  ⟨(Condition.readAll expression).filterMap Except.toOption, .byName⟩

def and (q : Query) (c : Condition) : Query := { q with conditions := q.conditions ++ [c] }

def orderBy (q : Query) (column : Column) (direction : Direction) : Query :=
  { q with order := .of column direction }

def isMet (q : Query) (game : Game) : Bool := q.conditions.all (·.isMet game)

def narrow (q : Query) (rows : List Entry) : List Entry :=
  q.conditions.foldl (fun rows c => rows.filter fun e => c.isMet e.game) rows

def run (q : Query) (rows : List Entry) : List Entry := q.order.sort (q.narrow rows)

def count (q : Query) (rows : List Entry) : Nat := rows.countP fun e => q.isMet e.game

theorem narrow_eq_filter (q : Query) (rows : List Entry) :
    q.narrow rows = rows.filter fun e => q.isMet e.game := by
  unfold narrow isMet
  induction q.conditions generalizing rows with
  | nil => exact (List.filter_eq_self.mpr (by simp)).symm
  | cons c cs ih => simp [ih, List.filter_filter, Bool.and_comm]

theorem narrow_perm (q : Query) {rows others : List Entry} (h : rows.Perm others) :
    (q.narrow rows).Perm (q.narrow others) := by
  rw [narrow_eq_filter, narrow_eq_filter]
  exact h.filter _

theorem run_perm_narrow (q : Query) (rows : List Entry) : (q.run rows).Perm (q.narrow rows) :=
  q.order.sort_perm _

theorem mem_run {q : Query} {rows : List Entry} {e : Entry} :
    e ∈ q.run rows ↔ e ∈ rows ∧ q.isMet e.game = true := by
  rw [(q.run_perm_narrow rows).mem_iff, narrow_eq_filter, List.mem_filter]

theorem mem_of_mem_run {q : Query} {rows : List Entry} {e : Entry} (h : e ∈ q.run rows) :
    e ∈ rows :=
  (mem_run.mp h).1

theorem length_run (q : Query) (rows : List Entry) : (q.run rows).length = q.count rows := by
  rw [(q.run_perm_narrow rows).length_eq, narrow_eq_filter, count, List.countP_eq_length_filter]

end Query
end GameShelf
