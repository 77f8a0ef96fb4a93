import GameShelf.Proofs.Picks.Resolution
import Mathlib.Data.List.Dedup

namespace GameShelf.Picks

inductive Edit where
  | add (selector : String) (candidates : List Game)
  | remove (selector : String)
  | clear

def edit (p : Picks) : Edit → Except SelectorError Picks
  | .add selector candidates => p.add selector (candidates.map Game.name)
  | .remove selector => p.remove selector
  | .clear => .ok .empty

def run (p : Picks) (edits : List Edit) : Picks :=
  edits.foldl (fun p e => (p.edit e).toOption.getD p) p

theorem run_append (p : Picks) (edits : List Edit) (e : Edit) :
    p.run (edits ++ [e]) = ((p.run edits).edit e).toOption.getD (p.run edits) := by
  simp [run]

/-- What may come of an edit: all that its selector resolves to goes in or out, or the edit fails
because the selector does. -/
inductive Edited (p : Picks) : Edit → Except SelectorError Picks → Prop
  | added {selector : String} {candidates : List Game} {picked : List String} {q : Picks}
    (h : Selector.Resolves .add (candidates.map Game.name) (trimChars selector.toList)
      (.ok picked))
    (hq : ∀ name, name ∈ q.members ↔ name ∈ p.members ∨ name ∈ picked) :
    Edited p (.add selector candidates) (.ok q)
  | notAdded {selector : String} {candidates : List Game} {e : SelectorError}
    (h : Selector.Resolves .add (candidates.map Game.name) (trimChars selector.toList)
      (.error e)) :
    Edited p (.add selector candidates) (.error e)
  | removed {selector : String} {picked : List String} {q : Picks}
    (h : Selector.Resolves .remove p.names (trimChars selector.toList) (.ok picked))
    (hq : ∀ name, name ∈ q.members ↔ name ∈ p.members ∧ name ∉ picked) :
    Edited p (.remove selector) (.ok q)
  | notRemoved {selector : String} {e : SelectorError}
    (h : Selector.Resolves .remove p.names (trimChars selector.toList) (.error e)) :
    Edited p (.remove selector) (.error e)
  | cleared : Edited p .clear (.ok .empty)

theorem edited (p : Picks) (e : Edit) : p.Edited e (p.edit e) := by
  cases e with
  | add selector candidates =>
    have hr := Selector.resolves .add selector (candidates.map Game.name)
    rw [edit, add_eq_resolve]
    cases hp : Selector.resolve .add selector (candidates.map Game.name) with
    | ok picked =>
      rw [hp] at hr
      exact .added hr fun name => by rw [mem_insertAll, or_comm]
    | error e =>
      rw [hp] at hr
      exact .notAdded hr
  | remove selector =>
    have hr := Selector.resolves .remove selector p.names
    rw [edit, remove_eq_resolve]
    cases hp : Selector.resolve .remove selector p.names with
    | ok picked =>
      rw [hp] at hr
      exact .removed hr (mem_eraseAll p picked)
    | error e =>
      rw [hp] at hr
      exact .notRemoved hr
  | clear => exact .cleared

theorem ext_members {p q : Picks} (h : p.members = q.members) : p = q := by
  cases p
  cases q
  cases h
  rfl

def erase (p : Picks) (name : String) : Picks := p.eraseAll [name]

theorem foldl_erase (p : Picks) (names : List String) : names.foldl erase p = p.eraseAll names := by
  apply ext_members
  induction names generalizing p with
  | nil => simp [eraseAll]
  | cons name names ih =>
    rw [List.foldl_cons, ih]
    simp only [erase, eraseAll, List.filter_filter]
    refine List.filter_congr fun other _ => ?_
    simp [Bool.and_comm]

theorem eraseAll_names (p : Picks) : p.eraseAll p.names = .empty := by
  apply ext_members
  refine List.filter_eq_nil_iff.mpr fun name hm => ?_
  simpa using (mem_names p name).mpr hm

section InPlace

/-- A change to a list in place. What was done before a failure stays done. -/
abbrev Change (α : Type) := ExceptT SelectorError (StateM Picks) α

def change : Edit → Change Unit
  | .add selector candidates => do
    let (s, text) ← readSelector .add selector
    (← s.pick text (candidates.map Game.name)).forM fun name => modify fun p => p.insert name
  | .remove selector => do
    let (s, text) ← readSelector .remove selector
    if s = .all then set Picks.empty
    else
      let p ← get
      (← s.pick text p.names).forM fun name => modify fun p => p.erase name
  | .clear => set Picks.empty

theorem run_lift_bind {α : Type} (x : Except SelectorError α) (f : α → Change Unit) (p : Picks) :
    (liftM x >>= f).run.run p =
      match x with
      | .ok a => (f a).run.run p
      | .error e => (.error e, p) := by
  cases x <;> rfl

theorem run_get_bind (f : Picks → Change Unit) (p : Picks) :
    (get >>= f).run.run p = (f p).run.run p :=
  rfl

theorem run_forM_modify (f : Picks → String → Picks) (names : List String) (p : Picks) :
    (names.forM fun name => modify fun p => f p name : Change Unit).run.run p =
      (.ok (), names.foldl f p) := by
  induction names generalizing p with
  | nil => rfl
  | cons name names ih => exact ih (f p name)

/-- An edit in place ends as the edit at once does, and one that fails has not touched the list: the
whole selector is resolved before the first name goes in or out. -/
theorem run_change (p : Picks) (e : Edit) :
    (change e).run.run p = ((p.edit e).map fun _ => (), (p.edit e).toOption.getD p) := by
  cases e with
  | add selector candidates =>
    simp only [change, edit, add]
    rw [run_lift_bind]
    cases readSelector .add selector with
    | error e => rfl
    | ok read =>
      obtain ⟨s, text⟩ := read
      simp only [run_lift_bind]
      cases hp : s.pick text (candidates.map Game.name) with
      | error e => simp only [bind, Except.bind, hp]; rfl
      | ok picked =>
        simp only [bind, Except.bind, hp]
        exact run_forM_modify insert picked p
  | remove selector =>
    simp only [change, edit, remove]
    rw [run_lift_bind]
    cases readSelector .remove selector with
    | error e => rfl
    | ok read =>
      obtain ⟨s, text⟩ := read
      by_cases hs : s = .all
      · subst hs
        have hp : Selector.all.pick text p.names = .ok p.names := rfl
        simp only [if_true, bind, Except.bind, hp, eraseAll_names]
        rfl
      · simp only [if_neg hs, run_get_bind, run_lift_bind]
        cases hp : s.pick text p.names with
        | error e => simp only [bind, Except.bind, hp]; rfl
        | ok picked =>
          simp only [bind, Except.bind, hp, ← foldl_erase]
          exact run_forM_modify erase picked p
  | clear => rfl

end InPlace

theorem nodup_names (p : Picks) : p.names.Nodup :=
  (List.mergeSort_perm _ _).nodup_iff.mpr p.nodup

theorem names_ascending (p : Picks) : p.names.Pairwise fun a b => nameCompare a b = .lt := by
  refine (p.names_sorted.and p.nodup_names).imp fun {a b} h => ?_
  have hne : nameCompare a b ≠ .eq := fun he => h.2 (Std.LawfulEqCmp.eq_of_compare he)
  cases hc : nameCompare a b with
  | lt => rfl
  | eq => exact absurd hc hne
  | gt => simp [hc] at h

theorem names_eq_sort (p : Picks) {names : List String}
    (h : ∀ name, name ∈ p.members ↔ name ∈ names) :
    p.names = names.dedup.mergeSort fun a b => (nameCompare a b).isLE := by
  let q : Picks := ⟨names.dedup, List.nodup_dedup names⟩
  have hs : p.Same q := fun name => by rw [h name, List.mem_dedup]
  exact hs.names_eq

theorem resolve_all {selector : String} (h : asciiEq (trim selector) "all" = true)
    (action : PickAction) (source : List String) :
    Selector.resolve action selector source = .ok source :=
  (Selector.resolves action selector source).all h

/-- After any run of edits the list shows its names strictly ascending. The next edit puts in or
takes out exactly what its selector resolves to, or fails and leaves the list as it is, also when it
is made in place. What is shown hangs on the set of the names alone, neither on the edits that made
it nor on how it is stored. -/
theorem edits_keep_ascending_set (edits : List Edit) :
    let p := empty.run edits
    p.names.Pairwise (fun a b => nameCompare a b = .lt) ∧ p.names.Nodup ∧
    (∀ name, name ∈ p.names ↔ name ∈ p.members) ∧
    p.count = p.names.length ∧ (p.isEmpty = true ↔ p.names = []) ∧
    (∀ text, p.contains text = true ↔
      ∃ name ∈ p.members, foldChars name.toList = foldChars text.toList) ∧
    (∀ e, p.Edited e (p.edit e)) ∧
    (∀ e, (change e).run.run p =
      match p.edit e with
      | .ok q => (.ok (), q)
      | .error reason => (.error reason, p)) ∧
    (∀ selector, asciiEq (trim selector) "all" = true → p.edit (.remove selector) = .ok .empty) ∧
    (∀ q : Picks, q.Same p → q.names = p.names) ∧
    ∀ selector (candidates : List Game), asciiEq (trim selector) "all" = true →
      (empty.run [.add selector candidates]).names =
        (candidates.map Game.name).dedup.mergeSort fun a b => (nameCompare a b).isLE := by
  intro p
  refine ⟨p.names_ascending, p.nodup_names, p.mem_names, p.length_names.symm, ?_, fun text => ?_,
    p.edited, fun e => ?_, fun selector h => ?_, fun q h => h.names_eq,
    fun selector candidates h => ?_⟩
  · rw [isEmpty, List.isEmpty_iff, ← List.length_eq_zero_iff, ← List.length_eq_zero_iff,
      length_names, count]
  · simp only [contains_iff, mem_names, foldEq_iff]
  · rw [run_change]
    cases p.edit e <;> rfl
  · rw [edit, remove_eq_resolve, resolve_all h]
    exact congrArg _ p.eraseAll_names
  · have he : empty.edit (.add selector candidates) =
        .ok (empty.insertAll (candidates.map Game.name)) := by
      rw [edit, add_eq_resolve, resolve_all h]
      rfl
    refine names_eq_sort _ fun name => ?_
    rw [← List.nil_append [Edit.add selector candidates], run_append]
    simp only [run, List.foldl_nil, he, Except.toOption, Option.getD_some, mem_insertAll]
    simp [empty]

theorem edits_keep_ascending_set_in_two_orders :
    let go : Game := ⟨"Go", 1, 0, 2, 5, 0, 0, 2000, ⟨0x401E000000000000⟩, .zero⟩
    let chess : Game := ⟨"Chess", 7, 0, 2, 2, 0, 0, 2006, ⟨0x4024000000000000⟩, .zero⟩
    let p := empty.run [.add "1-2" [go, chess]]
    let q := empty.run [.add "chess" [go, chess], .add "dance" [go], .add "GO" [go, chess]]
    q.Same p ∧ q.names = p.names ∧ asciiEq (trim " ALL ") "all" = true ∧
      p.edit (.remove " ALL ") = .ok .empty := by
  intro go chess p q
  have hall : asciiEq (trim " ALL ") "all" = true := by decide
  have hp : p.members = ["Chess", "Go"] := by decide
  have hq : q.members = ["Go", "Chess"] := by decide
  have hs : q.Same p := fun name => by simp [hp, hq, or_comm]
  obtain ⟨-, -, -, -, -, -, -, -, hremove, hsame, -⟩ :=
    edits_keep_ascending_set [.add "1-2" [go, chess]]
  exact ⟨hs, hsame q hs, hall, hremove " ALL " hall⟩

end GameShelf.Picks
