import GameShelf.Proofs.Picks.Names
import GameShelf.Proofs.Picks.Rows
import GameShelf.Proofs.Text.Trim

namespace GameShelf

/-- A selector that is none of the other forms is taken for a name. -/
def IsNameText (cs : List Char) : Prop :=
  cs ≠ [] ∧ asciiEq (String.ofList cs) "all" = false ∧ ∀ first last, ¬RowsAsked cs first last

namespace Selector

/-- What is to come of a selector without blanks around it, for each form that it may have. -/
structure Resolves (action : PickAction) (source : List String) (cs : List Char)
    (result : Except SelectorError (List String)) : Prop where
  blank : cs = [] → result = .error (.empty action)
  all : asciiEq (String.ofList cs) "all" = true → result = .ok source
  range : ∀ ds es, IsNumeral ds → IsNumeral es → cs = ds ++ '-' :: es →
    result =
      if 1 ≤ digitsValue ds ∧ digitsValue ds ≤ digitsValue es ∧
          digitsValue es ≤ source.length then
        .ok ((source.drop (digitsValue ds - 1)).take (digitsValue es + 1 - digitsValue ds))
      else .error (.invalidRange (String.ofList cs) source.length)
  position : IsNumeral cs →
    result =
      if h : 1 ≤ digitsValue cs ∧ digitsValue cs ≤ source.length then
        .ok [source[digitsValue cs - 1]]
      else .error (.invalidIndex (String.ofList cs) source.length)
  found : IsNameText cs → ∀ before picked after, source = before ++ picked :: after →
    foldEq picked (String.ofList cs) = true →
    (∀ other ∈ before, foldEq other (String.ofList cs) = false) → result = .ok [picked]
  missing : IsNameText cs → (∀ other ∈ source, foldEq other (String.ofList cs) = false) →
    result = .error (.noMatch (String.ofList cs))

theorem ofTrimmed_all {cs : List Char} (h : asciiEq (String.ofList cs) "all" = true) :
    ofTrimmed cs = .all := by
  simp only [ofTrimmed, h, if_true]

theorem ofTrimmed_name {cs : List Char} (h : IsNameText cs) :
    ofTrimmed cs = .name (String.ofList cs) := by
  obtain ⟨-, ha, hr⟩ := h
  have hsplit : cs.takeWhile Char.isDigit ++ cs.dropWhile Char.isDigit = cs :=
    List.takeWhile_append_dropWhile
  have hdigits : ∀ c ∈ cs.takeWhile Char.isDigit, c.isDigit = true :=
    fun c hc => List.mem_takeWhile_imp hc
  simp only [ofTrimmed, ha, Bool.false_eq_true, if_false]
  by_cases hf : cs.takeWhile Char.isDigit = []
  · rw [hf, List.isEmpty_nil, if_pos rfl]
  · rw [if_neg (by simpa using hf)]
    split
    · next hrest =>
      rw [hrest, List.append_nil] at hsplit
      rw [hsplit] at hf hdigits
      exact absurd (.position ⟨hf, hdigits⟩) (hr _ _)
    · next last hrest =>
      by_cases hl : last.isEmpty || !last.all Char.isDigit
      · rw [if_pos hl]
      · have hlast : IsNumeral last := by
          simpa [IsNumeral] using hl
        rw [hrest] at hsplit
        rw [← hsplit] at hr
        exact absurd (.range ⟨hf, hdigits⟩ hlast) (hr _ _)
    · rfl

theorem resolve_of_nil {raw : String} (h : trimChars raw.toList = []) (action : PickAction)
    (source : List String) : resolve action raw source = .error (.empty action) := by
  simp [resolve, readSelector, h, bind, Except.bind]

theorem resolves (action : PickAction) (raw : String) (source : List String) :
    Resolves action source (trimChars raw.toList) (resolve action raw source) where
  blank h := resolve_of_nil h action source
  all h := by
    have hne : trimChars raw.toList ≠ [] := by
      intro he
      rw [he] at h
      exact absurd h (by decide)
    rw [resolve_of_ne_nil hne, ofTrimmed_all h, pick]
  range ds es hd he h := by
    have hne : trimChars raw.toList ≠ [] := by simp [h]
    rw [resolve_of_ne_nil hne, h, ofTrimmed_range hd he, pick]
    by_cases hin : 1 ≤ digitsValue ds ∧ digitsValue ds ≤ digitsValue es ∧
        digitsValue es ≤ source.length
    · rw [if_pos hin, if_neg (by omega)]
    · rw [if_neg hin, if_pos (by omega)]
  position h := by
    rw [resolve_of_ne_nil h.1, ofTrimmed_position h, pick]
    by_cases hin : 1 ≤ digitsValue (trimChars raw.toList) ∧
        digitsValue (trimChars raw.toList) ≤ source.length
    · rw [dif_pos hin, if_neg (by omega), List.getElem?_eq_getElem (by omega)]
    · rw [dif_neg hin]
      split
      · rfl
      · rw [List.getElem?_eq_none (by omega)]
  found h before picked after hs hpicked hbefore := by
    have hfind : source.find? (foldEq · (String.ofList (trimChars raw.toList))) = some picked :=
      List.find?_eq_some_iff_append.mpr ⟨hpicked, before, after, hs, by simpa using hbefore⟩
    rw [resolve_of_ne_nil h.1, ofTrimmed_name h, pick, hfind]
  missing h hs := by
    have hfind : source.find? (foldEq · (String.ofList (trimChars raw.toList))) = none :=
      List.find?_eq_none.mpr (by simpa using hs)
    rw [resolve_of_ne_nil h.1, ofTrimmed_name h, pick, hfind]

def wordLimit : Nat := 0xFFFFFFFFFFFFFFFF

/-- The number that digits denote as a machine word; for one that is too large, the largest. -/
def wordOf (ds : List Char) : UInt64 :=
  match readDigits .decimal wordLimit .tooLarge 0 ds with
  | .ok n => .ofNat n
  | .error _ => .ofNat wordLimit

theorem toNat_wordOf {ds : List Char} (h : IsNumeral ds) :
    (wordOf ds).toNat = min (digitsValue ds) wordLimit := by
  have hread := readDigits_of_isDigit wordLimit .tooLarge (Nat.zero_le _) h.2
  rw [Nat.zero_mul, Nat.zero_add] at hread
  rw [wordOf, hread]
  by_cases hle : digitsValue ds ≤ wordLimit
  · have hlt : digitsValue ds < UInt64.size := Nat.lt_of_le_of_lt hle (by decide)
    rw [if_pos hle, Nat.min_eq_left hle]
    exact UInt64.toNat_ofNat_of_lt' hlt
  · rw [if_neg hle, Nat.min_eq_right (by omega)]
    decide

def slice? (source : List String) (start stop : UInt64) : Option (List String) :=
  if start ≤ stop ∧ stop.toNat ≤ source.length then
    some ((source.take stop.toNat).drop start.toNat)
  else none

def sliceRange? (text : String) (source : List String) (first last : UInt64) :
    Option (Except SelectorError (List String)) :=
  let available := UInt64.ofNat source.length
  if first = 0 ∨ last < first ∨ available < last then
    some (.error (.invalidRange text available.toNat))
  else (slice? source (first - 1) last).map .ok

def slicePosition? (text : String) (source : List String) (n : UInt64) :
    Option (Except SelectorError (List String)) :=
  let available := UInt64.ofNat source.length
  if n = 0 ∨ available < n then some (.error (.invalidIndex text available.toNat))
  else (source[(n - 1).toNat]?).map fun picked => .ok [picked]

def rangeParts? (cs : List Char) : Option (List Char × List Char) :=
  match cs.dropWhile Char.isDigit with
  | '-' :: es =>
    if IsNumeral (cs.takeWhile Char.isDigit) ∧ IsNumeral es then
      some (cs.takeWhile Char.isDigit, es)
    else none
  | _ => none

/-- `resolve`, with numbers in machine words; a cut or a place outside the list has no result. -/
def resolveSliced? (action : PickAction) (raw : String) (source : List String) :
    Option (Except SelectorError (List String)) :=
  let text := trim raw
  if text.isEmpty then some (.error (.empty action))
  else if asciiEq text "all" then some (.ok source)
  else match rangeParts? text.toList with
    | some (ds, es) => sliceRange? text source (wordOf ds) (wordOf es)
    | none =>
      if IsNumeral text.toList then slicePosition? text source (wordOf text.toList)
      else match source.find? (foldEq · text) with
        | some picked => some (.ok [picked])
        | none => some (.error (.noMatch text))

theorem rangeParts?_eq_some_iff {cs ds es : List Char} :
    rangeParts? cs = some (ds, es) ↔ IsNumeral ds ∧ IsNumeral es ∧ cs = ds ++ '-' :: es := by
  constructor
  · intro h
    unfold rangeParts? at h
    split at h
    · next last hrest =>
      split at h
      · next hnum =>
        obtain ⟨rfl, rfl⟩ := by simpa using h
        refine ⟨hnum.1, hnum.2, ?_⟩
        rw [← hrest, List.takeWhile_append_dropWhile]
      · cases h
    · cases h
  · rintro ⟨hd, he, rfl⟩
    have ht := takeWhile_isDigit_append hd.2 (by decide : '-'.isDigit = false) es
    have hr := dropWhile_isDigit_append hd.2 (by decide : '-'.isDigit = false) es
    rw [rangeParts?, hr, ht]
    simp [hd, he]

theorem toNat_pred {n : UInt64} (h : 1 ≤ n.toNat) : (n - 1).toNat = n.toNat - 1 :=
  UInt64.toNat_sub_of_le _ _ (by simpa [UInt64.le_iff_toNat_le] using h)

theorem slice?_pred {source : List String} {first last : UInt64} (hpos : 1 ≤ first.toNat)
    (hle : first.toNat ≤ last.toNat) (hlen : last.toNat ≤ source.length) :
    slice? source (first - 1) last =
      some ((source.drop (first.toNat - 1)).take (last.toNat + 1 - first.toNat)) := by
  have hin : first - 1 ≤ last ∧ last.toNat ≤ source.length := by
    rw [UInt64.le_iff_toNat_le, toNat_pred hpos]
    omega
  have hcount : last.toNat - (first.toNat - 1) = last.toNat + 1 - first.toNat := by omega
  rw [slice?, if_pos hin, toNat_pred hpos, List.drop_take, hcount]

section Words

variable {source : List String} (h : source.length < 2 ^ 63)
include h

/-- Words that hold the capped numbers of a range fail the checks of its bounds exactly when the
numbers themselves do: of numbers beyond the largest word, the last is past the end anyway. -/
theorem range_refused_iff {ds es : List Char} (hd : IsNumeral ds) (he : IsNumeral es) :
    (wordOf ds = 0 ∨ wordOf es < wordOf ds ∨ UInt64.ofNat source.length < wordOf es) ↔
      ¬(1 ≤ digitsValue ds ∧ digitsValue ds ≤ digitsValue es ∧
        digitsValue es ≤ source.length) := by
  have hzero : wordOf ds = 0 ↔ (wordOf ds).toNat = 0 := by rw [← UInt64.toNat_inj]; rfl
  have hlimit : wordLimit = 2 ^ 64 - 1 := rfl
  have havailable : (UInt64.ofNat source.length).toNat = source.length :=
    UInt64.toNat_ofNat_of_lt' (Nat.lt_trans h (by decide))
  rw [hzero, UInt64.lt_iff_toNat_lt, UInt64.lt_iff_toNat_lt, toNat_wordOf hd, toNat_wordOf he,
    havailable, hlimit]
  omega

theorem toNat_wordOf_of_le {ds : List Char} (hd : IsNumeral ds)
    (hle : digitsValue ds ≤ source.length) : (wordOf ds).toNat = digitsValue ds := by
  have hlimit : wordLimit = 2 ^ 64 - 1 := rfl
  rw [toNat_wordOf hd]
  omega

theorem sliceRange?_wordOf (text : String) {ds es : List Char} (hd : IsNumeral ds)
    (he : IsNumeral es) :
    sliceRange? text source (wordOf ds) (wordOf es) =
      some (if 1 ≤ digitsValue ds ∧ digitsValue ds ≤ digitsValue es ∧
          digitsValue es ≤ source.length then
        .ok ((source.drop (digitsValue ds - 1)).take (digitsValue es + 1 - digitsValue ds))
      else .error (.invalidRange text source.length)) := by
  have hrefused := range_refused_iff h hd he
  have havailable : (UInt64.ofNat source.length).toNat = source.length :=
    UInt64.toNat_ofNat_of_lt' (Nat.lt_trans h (by decide))
  rw [sliceRange?]
  by_cases hin : 1 ≤ digitsValue ds ∧ digitsValue ds ≤ digitsValue es ∧
      digitsValue es ≤ source.length
  · have ha := toNat_wordOf_of_le h hd (Nat.le_trans hin.2.1 hin.2.2)
    have hb := toNat_wordOf_of_le h he hin.2.2
    rw [if_neg (fun hbad => hrefused.mp hbad hin), if_pos hin,
      slice?_pred (by omega) (by omega) (by omega), ha, hb]
    rfl
  · rw [if_pos (hrefused.mpr hin), if_neg hin, havailable]

theorem slicePosition?_wordOf (text : String) {ds : List Char} (hd : IsNumeral ds) :
    slicePosition? text source (wordOf ds) =
      some (if h : 1 ≤ digitsValue ds ∧ digitsValue ds ≤ source.length then
        .ok [source[digitsValue ds - 1]]
      else .error (.invalidIndex text source.length)) := by
  have hrefused := range_refused_iff h hd hd
  simp only [UInt64.lt_irrefl, false_or, Nat.le_refl, true_and] at hrefused
  have havailable : (UInt64.ofNat source.length).toNat = source.length :=
    UInt64.toNat_ofNat_of_lt' (Nat.lt_trans h (by decide))
  rw [slicePosition?]
  by_cases hin : 1 ≤ digitsValue ds ∧ digitsValue ds ≤ source.length
  · have ha := toNat_wordOf_of_le h hd hin.2
    rw [if_neg (fun hbad => hrefused.mp hbad hin), dif_pos hin, toNat_pred (by omega), ha,
      List.getElem?_eq_getElem (by omega)]
    rfl
  · rw [if_pos (hrefused.mpr hin), dif_neg hin, havailable]

theorem resolveSliced?_eq (action : PickAction) (raw : String) :
    resolveSliced? action raw source = some (resolve action raw source) := by
  have hr := resolves action raw source
  have ht : trim raw = String.ofList (trimChars raw.toList) := rfl
  unfold resolveSliced?
  rw [ht]
  generalize trimChars raw.toList = cs at hr
  simp only [String.toList_ofList, isEmpty_ofList]
  by_cases hnil : cs = []
  · rw [if_pos (by simpa using hnil), hr.blank hnil]
  rw [if_neg (by simpa using hnil)]
  by_cases hall : asciiEq (String.ofList cs) "all" = true
  · rw [if_pos hall, hr.all hall]
  rw [if_neg hall]
  cases hparts : rangeParts? cs with
  | some parts =>
    obtain ⟨ds, es⟩ := parts
    obtain ⟨hd, he, hcs⟩ := rangeParts?_eq_some_iff.mp hparts
    simp only [sliceRange?_wordOf h (String.ofList cs) hd he, hr.range ds es hd he hcs]
  | none =>
    by_cases hnum : IsNumeral cs
    · rw [hr.position hnum]
      simp only [if_pos hnum, slicePosition?_wordOf h (String.ofList cs) hnum]
    · have hname : IsNameText cs := by
        refine ⟨hnil, by simpa using hall, fun first last hasked => ?_⟩
        cases hasked with
        | position hd => exact hnum hd
        | range hd he =>
          rw [rangeParts?_eq_some_iff.mpr ⟨hd, he, rfl⟩] at hparts
          cases hparts
      rw [if_neg hnum]
      cases hfind : source.find? (foldEq · (String.ofList cs)) with
      | some picked =>
        obtain ⟨hpicked, before, after, hs, hbefore⟩ := List.find?_eq_some_iff_append.mp hfind
        rw [hr.found hname before picked after hs hpicked (by simpa using hbefore)]
      | none =>
        rw [hr.missing hname (by simpa using List.find?_eq_none.mp hfind)]

end Words

end Selector

namespace Picks

theorem contains_iff (p : Picks) (name : String) :
    p.contains name = true ↔ ∃ other ∈ p.names, foldEq other name = true := by
  simp [contains, mem_names]

theorem remove_name_iff (p : Picks) {raw : String} (h : IsNameText (trimChars raw.toList)) :
    (∃ q, p.remove raw = .ok q) ↔ p.contains (trim raw) = true := by
  have hr := Selector.resolves .remove raw p.names
  rw [remove_eq_resolve, contains_iff, trim]
  by_cases hex : ∃ other ∈ p.names, foldEq other (String.ofList (trimChars raw.toList)) = true
  · have hsome :
        (p.names.find? (foldEq · (String.ofList (trimChars raw.toList)))).isSome = true := by
      simpa using hex
    obtain ⟨picked, hfind⟩ := Option.isSome_iff_exists.mp hsome
    obtain ⟨hpicked, before, after, hs, hbefore⟩ := List.find?_eq_some_iff_append.mp hfind
    rw [hr.found h before picked after hs hpicked (by simpa using hbefore)]
    exact iff_of_true ⟨_, rfl⟩ hex
  · rw [hr.missing h fun other ho => eq_false_of_ne_true fun he => hex ⟨other, ho, he⟩]
    exact iff_of_false (by simp [Except.map]) hex

/-- Every selector picks what its form says, from the candidates to add and from the list itself to
remove, and nothing else changes. Numbers of any length count as what they are, although they are
held in machine words, and no place outside the list is looked at. A name can be removed exactly
when the list contains it. -/
theorem selectors_resolve_exactly (raw : String) :
    (∀ action (source : List String), source.length < 2 ^ 63 →
      Selector.Resolves action source (trimChars raw.toList) (Selector.resolve action raw source) ∧
        Selector.resolveSliced? action raw source = some (Selector.resolve action raw source)) ∧
    (∀ (p : Picks) (candidates : List String),
      match Selector.resolve .add raw candidates with
      | .ok names => ∃ q, p.add raw candidates = .ok q ∧
        ∀ name, name ∈ q.members ↔ name ∈ names ∨ name ∈ p.members
      | .error e => p.add raw candidates = .error e) ∧
    (∀ p : Picks,
      match Selector.resolve .remove raw p.names with
      | .ok names => ∃ q, p.remove raw = .ok q ∧
        ∀ name, name ∈ q.members ↔ name ∈ p.members ∧ name ∉ names
      | .error e => p.remove raw = .error e) ∧
    (IsNameText (trimChars raw.toList) → ∀ p : Picks,
      (∃ q, p.remove raw = .ok q) ↔ p.contains (trim raw) = true) := by
  refine ⟨fun action source h => ?_, fun p candidates => ?_, fun p => ?_, fun h p => ?_⟩
  · exact ⟨Selector.resolves action raw source, Selector.resolveSliced?_eq h action raw⟩
  · rw [add_eq_resolve]
    cases Selector.resolve .add raw candidates with
    | ok names => exact ⟨_, rfl, mem_insertAll p names⟩
    | error e => rfl
  · rw [remove_eq_resolve]
    cases Selector.resolve .remove raw p.names with
    | ok names => exact ⟨_, rfl, mem_eraseAll p names⟩
    | error e => rfl
  · exact remove_name_iff p h

theorem selectors_resolve_of_long_numbers :
    let source := ["Alpha", "beta", "Gamma"]
    source.length < 2 ^ 63 ∧ IsNumeral "2".toList ∧
      IsNumeral "36893488147419103234".toList ∧ IsNumeral "0003".toList ∧
      IsNameText (trimChars " BETA ".toList) ∧
      Selector.resolve .add "2-36893488147419103234" source =
        .error (.invalidRange "2-36893488147419103234" 3) ∧
      Selector.resolve .add "2-0003" source = .ok ["beta", "Gamma"] ∧
      ∃ q, (⟨source, by decide⟩ : Picks).remove " BETA " = .ok q := by
  intro source
  have hlength : source.length < 2 ^ 63 := by decide
  have htwo : IsNumeral "2".toList := by decide
  have hlong : IsNumeral "36893488147419103234".toList := by decide
  have hzeros : IsNumeral "0003".toList := by decide
  have hname : IsNameText (trimChars " BETA ".toList) := by
    refine ⟨by decide, by decide, fun first last h => ?_⟩
    exact absurd (h.isDigit_of_head? (by decide : 'B' ∈ (trimChars " BETA ".toList).head?))
      (by decide)
  obtain ⟨hresolve, -⟩ := selectors_resolve_exactly "2-36893488147419103234"
  obtain ⟨hresolve', -⟩ := selectors_resolve_exactly "2-0003"
  obtain ⟨-, -, -, hremove⟩ := selectors_resolve_exactly " BETA "
  refine ⟨hlength, htwo, hlong, hzeros, hname, ?_, ?_, ?_⟩
  · exact (hresolve .add source hlength).1.range _ _ htwo hlong (by decide)
  · exact (hresolve' .add source hlength).1.range _ _ htwo hzeros (by decide)
  · exact (hremove hname _).mpr (by decide)

end Picks
end GameShelf
