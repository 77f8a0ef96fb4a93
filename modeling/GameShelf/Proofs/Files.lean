import GameShelf.Files

namespace GameShelf

section Successes

variable {ε δ α β : Type} {x : Except ε α}

theorem bind_eq_ok {f : α → Except ε β} {b : β} :
    x >>= f = .ok b ↔ ∃ a, x = .ok a ∧ f a = .ok b := by
  cases x <;> simp [bind, Except.bind]

theorem map_eq_ok {f : α → β} {b : β} : x.map f = .ok b ↔ ∃ a, x = .ok a ∧ f a = b := by
  cases x <;> simp [Except.map]

theorem mapError_eq_ok {f : ε → δ} {a : α} : x.mapError f = .ok a ↔ x = .ok a := by
  cases x with
  | error e => exact iff_of_false nofun nofun
  | ok b =>
    constructor
    · intro h
      cases h
      rfl
    · intro h
      cases h
      rfl

end Successes

namespace Files

def put (files : Files) (key : List String) (bytes : ByteArray) : Files :=
  ⟨(key, bytes) :: files.contents.filter fun (other, _) => other != key⟩

theorem write_eq_ok {files written : Files} {path text : String}
    (h : files.write path text = .ok written) :
    ∃ key, files.locate path = .ok (.name key) ∧ written = files.put key text.toUTF8 := by
  obtain ⟨place, hl, h⟩ := bind_eq_ok.mp h
  cases place with
  | name key =>
    cases h
    exact ⟨key, hl, rfl⟩
  | directory | slashed key => cases h

theorem isDirectory_iff (files : Files) (key : List String) :
    files.isDirectory key = true ↔
      ∃ entry ∈ files.contents, key <+: entry.1 ∧ key.length < entry.1.length := by
  simp [isDirectory]

theorem isDirectory_put (files : Files) (key : List String) (bytes : ByteArray)
    {other : List String} (h : files.isDirectory other = true) :
    (files.put key bytes).isDirectory other = true := by
  obtain ⟨entry, he, hp⟩ := (isDirectory_iff files other).mp h
  refine (isDirectory_iff _ other).mpr ?_
  by_cases hk : entry.1 = key
  · exact ⟨(key, bytes), by simp [put], hk ▸ hp⟩
  · exact ⟨entry, by simp [put, he, hk], hp⟩

theorem isDirectory_put_self (files : Files) (key : List String) (bytes : ByteArray)
    (h : files.isDirectory key = false) : (files.put key bytes).isDirectory key = false := by
  rw [← Bool.not_eq_true, isDirectory_iff] at h ⊢
  rintro ⟨entry, he, hp⟩
  rcases List.mem_cons.mp he with rfl | he
  · exact absurd hp.2 (Nat.lt_irrefl _)
  · exact h ⟨entry, (List.mem_filter.mp he).1, hp⟩

/-- Every name on the way is a directory and the last is none, and both stay so. -/
theorem walk_put (files : Files) {key : List String} (bytes : ByteArray) {here : List String}
    {names : List String} (h : files.walk here names = .ok (.name key)) :
    (files.put key bytes).walk here names = .ok (.name key) := by
  induction names generalizing here with
  | nil => simp [walk] at h
  | cons name rest ih =>
    rw [walk] at h ⊢
    by_cases hhere : name = "" ∨ name = "."
    · simp only [if_pos hhere] at h ⊢
      exact ih h
    simp only [if_neg hhere] at h ⊢
    by_cases hup : name = ".."
    · simp only [if_pos hup] at h ⊢
      exact ih h
    simp only [if_neg hup] at h ⊢
    by_cases hlong : 255 < name.utf8ByteSize
    · simp [hlong] at h
    simp only [if_neg hlong] at h ⊢
    by_cases hdir : files.isDirectory (here ++ [name]) = true
    · rw [if_pos hdir] at h
      rw [if_pos (files.isDirectory_put key bytes hdir)]
      exact ih h
    rw [if_neg hdir] at h
    by_cases hlast : rest.isEmpty = true
    · rw [if_pos hlast] at h
      obtain rfl : here ++ [name] = key := by simpa using h
      have hput := files.isDirectory_put_self (here ++ [name]) bytes (eq_false_of_ne_true hdir)
      rw [hput, if_pos hlast]
      rfl
    · rw [if_neg hlast] at h
      split at h
      · cases h
      · split at h <;> cases h

theorem locate_put (files : Files) {key : List String} (bytes : ByteArray) {path : String}
    (h : files.locate path = .ok (.name key)) :
    (files.put key bytes).locate path = .ok (.name key) := by
  unfold locate at h ⊢
  split at h
  · cases h
  · next hnul =>
    split at h
    · cases h
    · next hlong =>
      rw [if_neg hnul, if_neg hlong]
      exact files.walk_put bytes h

theorem read_of_write {files written : Files} {path text : String}
    (h : files.write path text = .ok written) : written.read path = .ok (some text.toUTF8) := by
  obtain ⟨key, hl, rfl⟩ := write_eq_ok h
  have hget : (files.put key text.toUTF8).get? key = some text.toUTF8 := by simp [put, get?]
  refine bind_eq_ok.mpr ⟨_, files.locate_put text.toUTF8 hl, ?_⟩
  simp only [hget]
  rfl

end Files
end GameShelf
