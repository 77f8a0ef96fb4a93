import GameShelf.Proofs.Search.Run
import GameShelf.Proofs.Sorting

namespace GameShelf.Search

def Meets (asked : List Asked) (g : Game) : Prop :=
  ∀ a ∈ asked, ∀ c, .ok c ∈ Condition.readAll a.expression → c.isMet g = true

theorem isMet_conjunction (asked : List Asked) (last : Asked) (g : Game) :
    (conjunction asked last).isMet g = true ↔ Meets asked g := by
  have hc : ∀ c, c ∈ conditions asked ↔ ∃ a ∈ asked, .ok c ∈ Condition.readAll a.expression := by
    intro c
    have ho : ∀ r : Except Fault Condition, r.toOption = some c ↔ r = .ok c := by
      intro r
      cases r <;> simp [Except.toOption]
    simp [conditions, Query.ofExpression, ho]
  simp only [Query.isMet, conjunction, List.all_eq_true, hc, Meets]
  constructor
  · intro h a ha c hm
    exact h c ⟨a, ha, hm⟩
  · rintro h c ⟨a, ha, hm⟩
    exact h a ha c hm

theorem mem_working (catalog : List Game) (calls : List Call) (e : Entry) :
    e ∈ ((start catalog).run calls).working ↔
      catalog[e.position]? = some e.game ∧ Meets (asked calls) e.game := by
  let last : Asked := ⟨"", .name, .ascending⟩
  rw [(working_perm_narrow catalog calls last).mem_iff, Query.narrow_eq_filter, List.mem_filter,
    mem_entries, isMet_conjunction]

theorem nodup_position (catalog : List Game) (calls : List Call) :
    (((start catalog).run calls).working.map Entry.position).Nodup := by
  let last : Asked := ⟨"", .name, .ascending⟩
  have hp := (working_perm_narrow catalog calls last).map Entry.position
  rw [Query.narrow_eq_filter] at hp
  have hn : ((entries catalog).map Entry.position).Nodup := by
    rw [entries_position]
    exact List.nodup_range
  exact hp.nodup_iff.mpr (hn.sublist (List.filter_sublist.map _))

theorem mem_position (catalog : List Game) (calls : List Call) (p : Nat) :
    p ∈ ((start catalog).run calls).working.map Entry.position ↔
      ∃ g, catalog[p]? = some g ∧ Meets (asked calls) g := by
  simp only [List.mem_map, mem_working]
  constructor
  · rintro ⟨e, he, rfl⟩
    exact ⟨e.game, he⟩
  · rintro ⟨g, hg⟩
    exact ⟨⟨p, g⟩, hg, rfl⟩

/-- The last query sorted the working set, and what it sorted were the rows that the single query
sorts. -/
theorem working_sorted (catalog : List Game) (calls : List Call) {last : Asked}
    (h : (asked calls).getLast? = some last) :
    (conjunction (asked calls) last).order.Sorted
      (((start catalog).run calls).working.map Entry.game) := by
  induction calls using List.reverseRecOn with
  | nil => simp [asked] at h
  | append_singleton calls call ih =>
    cases ha : call.asked? with
    | none =>
      rw [eq_reset_of_asked? ha, asked_append_reset] at h
      cases h
    | some a =>
      have hl : a = last := by simpa [asked_append calls ha] using h
      subst hl
      rw [run_append, call_of_asked? _ ha]
      exact SortOrder.sorted_sort (.of a.column a.direction) _

theorem working_map_key (catalog : List Game) (calls : List Call) {last : Asked}
    (h : (asked calls).getLast? = some last) :
    (((start catalog).run calls).working.map Entry.game).map
        (conjunction (asked calls) last).order.key =
      (((conjunction (asked calls) last).run (entries catalog)).map Entry.game).map
        (conjunction (asked calls) last).order.key := by
  have hp := (working_perm_narrow catalog calls last).trans
    ((conjunction (asked calls) last).run_perm_narrow (entries catalog)).symm
  exact SortOrder.map_key_eq_of_perm _ (hp.map _) (working_sorted catalog calls h)
    (Query.sorted_run _ _)

theorem working_eq_of_identified (catalog : List Game) (calls : List Call) {last : Asked}
    (h : (asked calls).getLast? = some last) (hu : Identified catalog) :
    ((start catalog).run calls).working =
      (conjunction (asked calls) last).run (entries catalog) := by
  have hp := (working_perm_narrow catalog calls last).trans
    ((conjunction (asked calls) last).run_perm_narrow (entries catalog)).symm
  refine SortOrder.eq_of_perm_of_sorted _ Entry.game hp (working_sorted catalog calls h)
    (Query.sorted_run _ _) ?_
  intro a ha b hb
  have hm : ∀ e ∈ ((start catalog).run calls).working, e ∈ entries catalog := fun e he =>
    (mem_entries catalog e).mpr ((mem_working catalog calls e).mp he).1
  exact hu.entry_eq (hm a ha) (hm b hb)

/-- A run leaves every position whose game meets all that was asked exactly once. A query after the
last reset leaves the keys of the one query that has all the conditions, and where name and id
identify a game also its positions. -/
theorem run_refines_conjunction (catalog : List Game) (calls : List Call) :
    let s := (start catalog).run calls
    (∀ p, (∃ g, catalog[p]? = some g ∧ Meets (asked calls) g) →
      (s.working.map Entry.position).count p = 1) ∧
    (∀ p, (¬∃ g, catalog[p]? = some g ∧ Meets (asked calls) g) →
      (s.working.map Entry.position).count p = 0) ∧
    (∀ e ∈ s.working, catalog[e.position]? = some e.game) ∧
    (∀ last, (asked calls).getLast? = some last →
      let single := conjunction (asked calls) last
      (s.working.map fun e => single.order.key e.game) =
          (single.run (entries catalog)).map (fun e => single.order.key e.game) ∧
        (Identified catalog →
          s.working.map Entry.position = (single.run (entries catalog)).map Entry.position)) ∧
    ∀ c a, c.asked? = some a → (s.call c).2 = some (s.call c).1.working := by
  refine ⟨?_, ?_, ?_, ?_, ?_⟩
  · intro p hp
    exact List.count_eq_one_of_mem (nodup_position catalog calls)
      ((mem_position catalog calls p).mpr hp)
  · intro p hp
    exact List.count_eq_zero.mpr fun hm => hp ((mem_position catalog calls p).mp hm)
  · intro e he
    exact ((mem_working catalog calls e).mp he).1
  · intro last hl
    refine ⟨?_, fun hu => ?_⟩
    · have hk := working_map_key catalog calls hl
      rw [List.map_map, List.map_map] at hk
      exact hk
    · rw [working_eq_of_identified catalog calls hl hu]
  · intro c a ha
    rw [call_of_asked? _ ha]
    rfl

theorem run_refines_conjunction_after_reset :
    let catalog : List Game :=
      [⟨"Go", 1, 0, 2, 5, 0, 0, 2000, ⟨0x401E000000000000⟩, .zero⟩,
        ⟨"go", 1, 0, 2, 2, 0, 0, 2006, ⟨0x7FF8000000000000⟩, .zero⟩,
        ⟨"Chess", 7, 0, 2, 2, 0, 0, 2006, ⟨0x4024000000000000⟩, .zero⟩]
    let calls : List Call := [.filter "name==go", .reset, .filterSorted "year>1999" .id,
      .query "bogus, maxPlayers<=2" .rating .descending]
    let last : Asked := ⟨"bogus, maxPlayers<=2", .rating, .descending⟩
    (asked calls).getLast? = some last ∧ Identified catalog ∧
      ((start catalog).run calls).working.map Entry.position =
        ((conjunction (asked calls) last).run (entries catalog)).map Entry.position := by
  intro catalog calls last
  have hl : (asked calls).getLast? = some last := by decide
  have hu : Identified catalog := by decide
  obtain ⟨-, -, -, hq, -⟩ := run_refines_conjunction catalog calls
  exact ⟨hl, hu, (hq last hl).2 hu⟩

end GameShelf.Search
