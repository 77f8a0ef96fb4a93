import GameShelf.Picks
import GameShelf.Proofs.Comparison

namespace GameShelf.Picks

theorem names_sorted (p : Picks) : p.names.Pairwise fun a b => (nameCompare a b).isLE :=
  pairwise_mergeSort_isLE nameCompare p.members

def Same (p q : Picks) : Prop := ∀ name, name ∈ p.members ↔ name ∈ q.members

theorem Same.perm {p q : Picks} (h : Same p q) : p.members.Perm q.members :=
  (List.perm_ext_iff_of_nodup p.nodup q.nodup).mpr h

theorem Same.count_eq {p q : Picks} (h : Same p q) : p.count = q.count := h.perm.length_eq

theorem Same.names_eq {p q : Picks} (h : Same p q) : p.names = q.names := by
  have hp : p.names.Perm q.names :=
    (List.mergeSort_perm _ _).trans (h.perm.trans (List.mergeSort_perm _ _).symm)
  exact eq_of_perm_of_isLE nameCompare hp p.names_sorted q.names_sorted
    fun a _ b _ => Std.LawfulEqCmp.eq_of_compare

def SameResult : Except SelectorError Picks → Except SelectorError Picks → Prop
  | .ok p, .ok q => Same p q
  | .error d, .error e => d = e
  | _, _ => False

theorem Same.add {p q : Picks} (h : Same p q) (selector : String) (candidates : List String) :
    SameResult (p.add selector candidates) (q.add selector candidates) := by
  unfold Picks.add
  cases readSelector .add selector with
  | error e => exact rfl
  | ok read =>
    obtain ⟨s, text⟩ := read
    cases hp : s.pick text candidates with
    | error e => simp [bind, Except.bind, hp, SameResult]
    | ok names =>
      simp only [bind, Except.bind, hp]
      intro name
      rw [mem_insertAll, mem_insertAll, h name]

theorem Same.remove {p q : Picks} (h : Same p q) (selector : String) :
    SameResult (p.remove selector) (q.remove selector) := by
  unfold Picks.remove
  rw [h.names_eq]
  cases readSelector .remove selector with
  | error e => exact rfl
  | ok read =>
    obtain ⟨s, text⟩ := read
    cases hp : s.pick text q.names with
    | error e => simp [bind, Except.bind, hp, SameResult]
    | ok names =>
      simp only [bind, Except.bind, hp]
      intro name
      rw [mem_eraseAll, mem_eraseAll, h name]

end GameShelf.Picks
