import GameShelf.Search
import Mathlib.Data.List.Induction

namespace GameShelf.Search

structure Asked where
  expression : String
  column : Column
  direction : Direction
  deriving DecidableEq

def Call.asked? : Call → Option Asked
  | .filter expression => some ⟨expression, .name, .ascending⟩
  | .filterSorted expression column => some ⟨expression, column, .ascending⟩
  | .query expression column direction => some ⟨expression, column, direction⟩
  | .reset => none

def run (s : Search) (calls : List Call) : Search := calls.foldl (fun s c => (s.call c).1) s

/-- What was asked since the last reset of a run, the first query first. -/
def asked (calls : List Call) : List Asked :=
  ((calls.reverse.takeWhile (· ≠ .reset)).filterMap Call.asked?).reverse

def conditions (asked : List Asked) : List Condition :=
  asked.flatMap fun a => (Query.ofExpression a.expression).conditions

def conjunction (asked : List Asked) (last : Asked) : Query :=
  ⟨conditions asked, .of last.column last.direction⟩

theorem eq_reset_of_asked? {call : Call} (h : call.asked? = none) : call = .reset := by
  cases call <;> simp [Call.asked?] at h ⊢

theorem call_of_asked? (s : Search) {call : Call} {a : Asked} (h : call.asked? = some a) :
    s.call call = answered (s.query a.expression a.column a.direction) := by
  cases call with
  | reset => simp [Call.asked?] at h
  | filter expression | filterSorted expression column | query expression column direction =>
    cases h
    rfl

theorem run_append (s : Search) (calls : List Call) (call : Call) :
    s.run (calls ++ [call]) = ((s.run calls).call call).1 := by
  simp [run]

theorem call_catalog (s : Search) (call : Call) : (s.call call).1.catalog = s.catalog := by
  cases call <;> rfl

theorem run_catalog (s : Search) (calls : List Call) : (s.run calls).catalog = s.catalog := by
  induction calls using List.reverseRecOn with
  | nil => rfl
  | append_singleton calls call ih => rw [run_append, call_catalog, ih]

theorem asked_append_reset (calls : List Call) : asked (calls ++ [.reset]) = [] := by
  simp [asked]

theorem asked_append (calls : List Call) {call : Call} {a : Asked} (h : call.asked? = some a) :
    asked (calls ++ [call]) = asked calls ++ [a] := by
  have hr : call ≠ .reset := by
    rintro rfl
    simp [Call.asked?] at h
  simp [asked, hr, h]

theorem conditions_append (asked : List Asked) (a : Asked) :
    conditions (asked ++ [a]) =
      conditions asked ++ (Query.ofExpression a.expression).conditions := by
  simp [conditions]

theorem narrow_conjunction_append (asked : List Asked) (a last : Asked) (rows : List Entry) :
    (conjunction (asked ++ [a]) last).narrow rows =
      (Query.ofExpression a.expression).narrow ((conjunction asked last).narrow rows) := by
  simp only [Query.narrow, conjunction, conditions_append, List.foldl_append]

/-- The working set is what one query for everything asked leaves of the catalog. Only its sequence
is the work of the queries one by one. -/
theorem working_perm_narrow (catalog : List Game) (calls : List Call) (last : Asked) :
    ((start catalog).run calls).working.Perm
      ((conjunction (asked calls) last).narrow (entries catalog)) := by
  induction calls using List.reverseRecOn with
  | nil => exact List.Perm.refl _
  | append_singleton calls call ih =>
    rw [run_append]
    cases ha : call.asked? with
    | none =>
      obtain rfl := eq_reset_of_asked? ha
      rw [asked_append_reset, Search.call, reset, run_catalog]
      exact List.Perm.refl _
    | some a =>
      rw [call_of_asked? _ ha, asked_append calls ha, narrow_conjunction_append]
      exact (Query.run_perm_narrow _ _).trans (Query.narrow_perm _ ih)

end GameShelf.Search
