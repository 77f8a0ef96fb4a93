import GameShelf.Proofs.JsonValue.Numbers
import GameShelf.Proofs.JsonValue.Strings
import Mathlib.Data.List.TakeWhile

namespace GameShelf.JsonValue

def skipSpacing (cs : List Char) : List Char := cs.dropWhile isSpacing

section Parts

variable {α : Type} (readItem : List Char → Option (α × List Char)) (close : Char)

/-- Reads items with commas between them up to the closing bracket. The number bounds how many
there are. -/
def readItems : Nat → List Char → Option (List α × List Char)
  | 0, _ => none
  | bound + 1, cs =>
    match readItem cs with
    | some (a, c :: cs) =>
      if c = ',' then (readItems bound cs).map fun (as, cs) => (a :: as, cs)
      else if c = close then some ([a], cs)
      else none
    | _ => none

def readBracketed (cs : List Char) : Option (List α × List Char) :=
  if (skipSpacing cs).head? = some close then some ([], (skipSpacing cs).tail)
  else readItems readItem close cs.length cs

end Parts

section Items

variable (readValue : List Char → Option (JsonValue × List Char))

def readElement (cs : List Char) : Option (JsonValue × List Char) :=
  (readValue (skipSpacing cs)).map fun (v, cs) => (v, skipSpacing cs)

def readMember (cs : List Char) : Option ((String × JsonValue) × List Char) :=
  (readString (skipSpacing cs)).bind fun (key, cs) =>
    match skipSpacing cs with
    | ':' :: cs => (readElement readValue cs).map fun (v, cs) => ((key, v), cs)
    | _ => none

end Items

/-- Reads a value. The number bounds how deep its brackets are nested. -/
def readValue : Nat → List Char → Option (JsonValue × List Char)
  | 0, _ => none
  | _, [] => none
  | depth + 1, c :: cs =>
    if c = '"' then (readString (c :: cs)).map fun (s, cs) => (.string s, cs)
    else if c = '[' then
      (readBracketed (readElement (readValue depth)) ']' cs).map fun (vs, cs) => (.array vs, cs)
    else if c = '\x7b' then
      (readBracketed (readMember (readValue depth)) '\x7d' cs).map fun (ms, cs) => (.object ms, cs)
    else
      match words.find? fun w => w.1.isPrefixOf (c :: cs) with
      | some (w, v) => some (v, (c :: cs).drop w.length)
      | none => readNumber (c :: cs)

def read? (text : String) : Option JsonValue :=
  match readElement (readValue text.toList.length) text.toList with
  | some (v, []) => some v
  | _ => none

section Spacing

theorem skipSpacing_append {b : List Char} (hb : IsSpacing b) (cs : List Char) :
    skipSpacing (b ++ cs) = skipSpacing cs :=
  List.dropWhile_append_of_pos hb

theorem skipSpacing_of_head? {cs : List Char} (h : ∀ c ∈ cs.head?, isSpacing c = false) :
    skipSpacing cs = cs :=
  dropWhile_append_of_head? (fun _ hm => absurd hm List.not_mem_nil) h

theorem exists_eq_append_skipSpacing (cs : List Char) :
    ∃ b, IsSpacing b ∧ cs = b ++ skipSpacing cs :=
  ⟨cs.takeWhile isSpacing, fun _ => List.mem_takeWhile_imp,
    List.takeWhile_append_dropWhile.symm⟩

def startsValue (c : Char) : Bool :=
  c.isDigit || ['-', '"', '[', '\x7b', 'n', 't', 'f'].contains c

def endsElement (c : Char) : Bool := [',', ']', '\x7d'].contains c

theorem not_of_isSpacing {p : Char → Bool}
    (h : p ' ' = false ∧ p '\t' = false ∧ p '\n' = false ∧ p '\r' = false) {c : Char}
    (hc : isSpacing c = true) : p c = false := by
  obtain ⟨hspace, htab, hfeed, hreturn⟩ := h
  simp only [isSpacing, List.contains_iff_mem, List.mem_cons, List.not_mem_nil, or_false] at hc
  rcases hc with rfl | rfl | rfl | rfl
  · exact hspace
  · exact htab
  · exact hfeed
  · exact hreturn

theorem not_isSpacing_of_startsValue {c : Char} (h : startsValue c = true) :
    isSpacing c = false := by
  refine eq_false_of_ne_true fun hs => ?_
  rw [not_of_isSpacing (p := startsValue) (by decide) hs] at h
  cases h

theorem of_endsElement {c : Char} (h : endsElement c = true) :
    isSpacing c = false ∧ isNumberMark c = false := by
  simp only [endsElement, List.contains_iff_mem, List.mem_cons, List.not_mem_nil, or_false] at h
  rcases h with rfl | rfl | rfl <;> decide

/-- No number goes on behind an element's value. -/
theorem not_isNumberMark_after {b rest : List Char} (hb : IsSpacing b)
    (hr : ∀ c ∈ rest.head?, endsElement c = true) :
    ∀ c ∈ (b ++ rest).head?, isNumberMark c = false := by
  intro c hc
  cases b with
  | nil => exact (of_endsElement (hr c hc)).2
  | cons d b =>
    obtain rfl : d = c := Option.some.inj hc
    exact not_of_isSpacing (by decide) (hb d List.mem_cons_self)

end Spacing

section Complete

theorem Spells.value_head {v : JsonValue} {cs : List Char} (h : Spells (.value v) cs) :
    ∃ c rest, cs = c :: rest ∧ startsValue c = true := by
  cases h with
  | word hw =>
    simp only [words, List.mem_cons, Prod.mk.injEq, List.not_mem_nil, or_false] at hw
    rcases hw with ⟨rfl, -⟩ | ⟨rfl, -⟩ | ⟨rfl, -⟩
    · exact ⟨'n', _, rfl, by decide⟩
    · exact ⟨'t', _, rfl, by decide⟩
    · exact ⟨'f', _, rfl, by decide⟩
  | number hn =>
    obtain ⟨c, rest, hcs, hc⟩ := hn.head
    refine ⟨c, rest, hcs, ?_⟩
    rcases hc with rfl | hc
    · decide
    · rw [startsValue, hc, Bool.true_or]
  | string hs =>
    obtain ⟨ds, -, rfl⟩ := hs
    exact ⟨'"', _, rfl, by decide⟩
  | emptyArray | array => exact ⟨'[', _, rfl, by decide⟩
  | emptyObject | object => exact ⟨'\x7b', _, rfl, by decide⟩

theorem Spells.skipSpacing_value {v : JsonValue} {cs : List Char} (h : Spells (.value v) cs)
    (rest : List Char) : skipSpacing (cs ++ rest) = cs ++ rest := by
  obtain ⟨c, tail, rfl, hc⟩ := h.value_head
  apply skipSpacing_of_head?
  intro d hd
  obtain rfl : c = d := Option.some.inj hd
  exact not_isSpacing_of_startsValue hc

theorem Spells.exists_depth {v : JsonValue} {cs : List Char} (h : Spells (.value v) cs)
    {depth : Nat} (hd : cs.length ≤ depth) : ∃ d, depth = d + 1 := by
  obtain ⟨c, tail, rfl, -⟩ := h.value_head
  exact Nat.exists_eq_add_of_le' (Nat.le_of_add_left_le hd)

section Items

/-- Whether a value or a key stands first in the text once the spacing is skipped. -/
def Starts (cs : List Char) : Prop :=
  ∃ c, (skipSpacing cs).head? = some c ∧ startsValue c = true

theorem Spells.element_starts {v : JsonValue} {cs : List Char} (h : Spells (.element v) cs)
    (rest : List Char) : Starts (cs ++ rest) := by
  cases h with
  | element hb h _ =>
    rw [List.append_assoc, Starts, skipSpacing_append hb, List.append_assoc, h.skipSpacing_value]
    obtain ⟨c, tail, rfl, hc⟩ := h.value_head
    exact ⟨c, rfl, hc⟩

theorem Spells.elements_starts {vs : List JsonValue} {cs : List Char}
    (h : Spells (.elements vs) cs) (rest : List Char) : Starts (cs ++ rest) := by
  cases h with
  | lastElement h => exact h.element_starts rest
  | moreElements h _ =>
    rw [List.append_assoc]
    exact h.element_starts _

theorem Spells.member_starts {m : String × JsonValue} {cs : List Char}
    (h : Spells (.member m) cs) (rest : List Char) : Starts (cs ++ rest) := by
  cases h with
  | member hb hk _ _ =>
    obtain ⟨ds, -, rfl⟩ := hk
    rw [List.append_assoc, Starts, skipSpacing_append hb]
    exact ⟨'"', rfl, by decide⟩

theorem Spells.members_starts {ms : List (String × JsonValue)} {cs : List Char}
    (h : Spells (.members ms) cs) (rest : List Char) : Starts (cs ++ rest) := by
  cases h with
  | lastMember h => exact h.member_starts rest
  | moreMembers h _ =>
    rw [List.append_assoc]
    exact h.member_starts _

variable {α : Type} {readItem : List Char → Option (α × List Char)} {close : Char}

/-- That an item is taken off a text in which a separator or a closing bracket may follow it. -/
def Takes (readItem : List Char → Option (α × List Char)) (a : α) (cs : List Char) : Prop :=
  ∀ rest, (∀ c ∈ rest.head?, endsElement c = true) → readItem (cs ++ rest) = some (a, rest)

def TakesAll (readItem : List Char → Option (α × List Char)) (close : Char) (as : List α)
    (cs : List Char) : Prop :=
  ∀ bound rest, cs.length < bound →
    readItems readItem close bound (cs ++ close :: rest) = some (as, rest)

theorem Takes.last {a : α} {cs : List Char} (h : Takes readItem a cs)
    (hc : endsElement close = true ∧ close ≠ ',') : TakesAll readItem close [a] cs := by
  intro bound rest hb
  obtain ⟨bound, rfl⟩ := Nat.exists_eq_succ_of_ne_zero (Nat.ne_zero_of_lt hb)
  have hitem := h (close :: rest) fun c hmem => Option.some.inj hmem ▸ hc.1
  simp [readItems, hitem, hc.2]

theorem Takes.more {a : α} {as : List α} {cs ds : List Char} (h : Takes readItem a cs)
    (hs : TakesAll readItem close as ds) : TakesAll readItem close (a :: as) (cs ++ ',' :: ds) := by
  intro bound rest hb
  rw [List.length_append, List.length_cons] at hb
  obtain ⟨bound, rfl⟩ := Nat.exists_eq_succ_of_ne_zero (Nat.ne_zero_of_lt hb)
  have hcomma : endsElement ',' = true := by decide
  have hitem := h (',' :: (ds ++ close :: rest)) fun c hmem => Option.some.inj hmem ▸ hcomma
  have hitems := hs bound rest (by omega)
  rw [List.append_assoc, List.cons_append, readItems, hitem]
  simp [hitems]

theorem readBracketed_nil {b : List Char} (hb : IsSpacing b) (hc : isSpacing close = false)
    (rest : List Char) : readBracketed readItem close (b ++ close :: rest) = some ([], rest) := by
  have hskip : skipSpacing (b ++ close :: rest) = close :: rest := by
    rw [skipSpacing_append hb, skipSpacing_of_head?]
    exact fun c hmem => Option.some.inj hmem ▸ hc
  rw [readBracketed, hskip]
  exact if_pos rfl

theorem TakesAll.readBracketed {as : List α} {cs : List Char} (h : TakesAll readItem close as cs)
    (hs : ∀ rest, Starts (cs ++ rest)) (hc : startsValue close = false) (rest : List Char) :
    readBracketed readItem close (cs ++ close :: rest) = some (as, rest) := by
  obtain ⟨c, hhead, hstarts⟩ := hs (close :: rest)
  have hne : (skipSpacing (cs ++ close :: rest)).head? ≠ some close := by
    rw [hhead]
    intro he
    rw [Option.some.inj he, hc] at hstarts
    cases hstarts
  rw [JsonValue.readBracketed, if_neg hne]
  apply h
  rw [List.length_append, List.length_cons]
  omega

end Items

section Values

variable {depth : Nat}

theorem readValue_word {w : List Char} {v : JsonValue} (h : (w, v) ∈ words) (rest : List Char) :
    readValue (depth + 1) (w ++ rest) = some (v, rest) := by
  simp only [words, List.mem_cons, Prod.mk.injEq, List.not_mem_nil, or_false] at h
  rcases h with ⟨rfl, rfl⟩ | ⟨rfl, rfl⟩ | ⟨rfl, rfl⟩ <;> simp [readValue, words]

theorem readValue_number {cs : List Char} (h : IsNumber cs) {rest : List Char}
    (hr : ∀ c ∈ rest.head?, isNumberMark c = false) :
    readValue (depth + 1) (cs ++ rest) = some (.number (String.ofList cs), rest) := by
  have hread := readNumber_append h hr
  obtain ⟨c, tail, rfl, hc⟩ := h.head
  obtain ⟨hquote, harray, hobject, hn, ht, hf⟩ :
      c ≠ '"' ∧ c ≠ '[' ∧ c ≠ '\x7b' ∧ c ≠ 'n' ∧ c ≠ 't' ∧ c ≠ 'f' := by
    rcases hc with rfl | hc
    · decide
    · refine ⟨?_, ?_, ?_, ?_, ?_, ?_⟩ <;> exact ne_of_isDigit hc (by decide)
  have hwords : (words.find? fun w => w.1.isPrefixOf (c :: (tail ++ rest))) = none := by
    simp [words, List.isPrefixOf, Ne.symm hn, Ne.symm ht, Ne.symm hf]
  rw [List.cons_append, readValue, if_neg hquote, if_neg harray, if_neg hobject, hwords]
  exact hread

theorem readValue_string {s : String} {cs : List Char} (h : SpellsString s cs)
    (rest : List Char) : readValue (depth + 1) (cs ++ rest) = some (.string s, rest) := by
  have hread := readString_append h rest
  obtain ⟨ds, -, rfl⟩ := h
  rw [List.cons_append, readValue, if_pos rfl, ← List.cons_append, hread]
  rfl

theorem readValue_array {vs : List JsonValue} {cs rest : List Char}
    (h : readBracketed (readElement (readValue depth)) ']' (cs ++ ']' :: rest) =
      some (vs, rest)) :
    readValue (depth + 1) ('[' :: (cs ++ [']']) ++ rest) = some (.array vs, rest) := by
  simp [readValue, h]

theorem readValue_object {ms : List (String × JsonValue)} {cs rest : List Char}
    (h : readBracketed (readMember (readValue depth)) '\x7d' (cs ++ '\x7d' :: rest) =
      some (ms, rest)) :
    readValue (depth + 1) ('\x7b' :: (cs ++ ['\x7d']) ++ rest) = some (.object ms, rest) := by
  simp [readValue, h]

theorem takes_element {b cs b' : List Char} {v : JsonValue} (hb : IsSpacing b)
    (h : Spells (.value v) cs) (hb' : IsSpacing b')
    (hread : ∀ rest, (∀ c ∈ rest.head?, isNumberMark c = false) →
      readValue depth (cs ++ rest) = some (v, rest)) :
    Takes (readElement (readValue depth)) v (b ++ (cs ++ b')) := by
  intro rest hr
  have hend : skipSpacing (b' ++ rest) = rest := by
    rw [skipSpacing_append hb', skipSpacing_of_head?]
    exact fun c hc => (of_endsElement (hr c hc)).1
  rw [List.append_assoc, List.append_assoc, readElement, skipSpacing_append hb,
    h.skipSpacing_value, hread _ (not_isNumberMark_after hb' hr)]
  simp [hend]

theorem takes_member {b ks b' cs : List Char} {key : String} {v : JsonValue} (hb : IsSpacing b)
    (hk : SpellsString key ks) (hb' : IsSpacing b')
    (h : Takes (readElement (readValue depth)) v cs) :
    Takes (readMember (readValue depth)) (key, v) (b ++ (ks ++ (b' ++ ':' :: cs))) := by
  intro rest hr
  have hkey := readString_append hk (b' ++ ':' :: (cs ++ rest))
  have hstart : skipSpacing (ks ++ (b' ++ ':' :: (cs ++ rest))) =
      ks ++ (b' ++ ':' :: (cs ++ rest)) := by
    obtain ⟨ds, -, rfl⟩ := hk
    rfl
  have hcolon : skipSpacing (b' ++ ':' :: (cs ++ rest)) = ':' :: (cs ++ rest) := by
    rw [skipSpacing_append hb']
    rfl
  simp only [List.append_assoc, List.cons_append]
  rw [readMember, skipSpacing_append hb, hstart, hkey]
  simp [hcolon, h rest hr]

end Values

/-- What the reader does with a phrase, whatever follows it, if the depth suffices. -/
def Reads : Phrase → List Char → Nat → Prop
  | .value v, cs, depth => ∀ rest, (∀ c ∈ rest.head?, isNumberMark c = false) →
      readValue depth (cs ++ rest) = some (v, rest)
  | .element v, cs, depth => Takes (readElement (readValue depth)) v cs
  | .elements vs, cs, depth => TakesAll (readElement (readValue depth)) ']' vs cs
  | .member m, cs, depth => Takes (readMember (readValue depth)) m cs
  | .members ms, cs, depth => TakesAll (readMember (readValue depth)) '\x7d' ms cs

/-- A text of `n` characters has brackets no deeper than `n`. -/
theorem reads_of_spells {p : Phrase} {cs : List Char} (h : Spells p cs) {depth : Nat}
    (hd : cs.length ≤ depth) : Reads p cs depth := by
  induction h generalizing depth with
  | word h =>
    obtain ⟨depth, rfl⟩ := (Spells.word h).exists_depth hd
    exact fun rest _ => readValue_word h rest
  | @number numeral h =>
    obtain ⟨depth, rfl⟩ := (Spells.number h).exists_depth hd
    intro rest hr
    rw [readValue_number h hr, String.ofList_toList]
  | string h =>
    obtain ⟨depth, rfl⟩ := (Spells.string h).exists_depth hd
    exact fun rest _ => readValue_string h rest
  | emptyArray hb =>
    obtain ⟨depth, rfl⟩ := (Spells.emptyArray hb).exists_depth hd
    exact fun rest _ => readValue_array (readBracketed_nil hb (by decide) rest)
  | array h ih =>
    obtain ⟨depth, rfl⟩ := (Spells.array h).exists_depth hd
    rw [List.length_cons, List.length_append] at hd
    have hitems : TakesAll (readElement (readValue depth)) ']' _ _ := ih (by omega)
    exact fun rest _ => readValue_array (hitems.readBracketed h.elements_starts (by decide) rest)
  | emptyObject hb =>
    obtain ⟨depth, rfl⟩ := (Spells.emptyObject hb).exists_depth hd
    exact fun rest _ => readValue_object (readBracketed_nil hb (by decide) rest)
  | object h ih =>
    obtain ⟨depth, rfl⟩ := (Spells.object h).exists_depth hd
    rw [List.length_cons, List.length_append] at hd
    have hitems : TakesAll (readMember (readValue depth)) '\x7d' _ _ := ih (by omega)
    exact fun rest _ => readValue_object (hitems.readBracketed h.members_starts (by decide) rest)
  | element hb h hb' ih =>
    rw [List.length_append, List.length_append] at hd
    exact takes_element hb h hb' (ih (by omega))
  | lastElement _ ih => exact (ih hd).last (by decide)
  | moreElements _ _ ih ihs =>
    rw [List.length_append, List.length_cons] at hd
    exact (ih (by omega)).more (ihs (by omega))
  | member hb hk hb' _ ih =>
    simp only [List.length_append, List.length_cons] at hd
    exact takes_member hb hk hb' (ih (by omega))
  | lastMember _ ih => exact (ih hd).last (by decide)
  | moreMembers _ _ ih ihs =>
    rw [List.length_append, List.length_cons] at hd
    exact (ih (by omega)).more (ihs (by omega))

theorem read?_of_denotes {text : String} {v : JsonValue} (h : Denotes text v) :
    read? text = some v := by
  have htakes : Takes _ v text.toList := reads_of_spells h (Nat.le_refl _)
  have hread := htakes [] fun c hc => nomatch hc
  rw [List.append_nil] at hread
  rw [read?, hread]

end Complete

section Sound

variable {α : Type} {readItem : List Char → Option (α × List Char)} {close : Char}
  {Item : α → List Char → Prop} (Items : List α → List Char → Prop)

/-- That what is taken off a text is spelled by the characters that are taken. -/
def Trusts (read : List Char → Option (α × List Char)) (Item : α → List Char → Prop) : Prop :=
  ∀ cs a rest, read cs = some (a, rest) → ∃ ds, cs = ds ++ rest ∧ Item a ds

theorem spelled_of_readItems (hitem : Trusts readItem Item)
    (last : ∀ {a cs}, Item a cs → Items [a] cs)
    (more : ∀ {a as cs ds}, Item a cs → Items as ds → Items (a :: as) (cs ++ ',' :: ds))
    {bound : Nat} {cs rest : List Char} {as : List α}
    (h : readItems readItem close bound cs = some (as, rest)) :
    ∃ ds, cs = ds ++ close :: rest ∧ Items as ds := by
  induction bound generalizing cs as with
  | zero => simp [readItems] at h
  | succ bound ih =>
    unfold readItems at h
    split at h
    · next a c tail ha =>
      obtain ⟨ds, rfl, hds⟩ := hitem _ _ _ ha
      split at h
      · next hcomma =>
        obtain rfl := hcomma
        simp only [Option.map_eq_some_iff, Prod.exists, Prod.mk.injEq] at h
        obtain ⟨as, _, has, rfl, rfl⟩ := h
        obtain ⟨es, rfl, hes⟩ := ih has
        exact ⟨ds ++ ',' :: es, by simp, more hds hes⟩
      · split at h
        · next hclose =>
          obtain rfl := hclose
          obtain ⟨rfl, rfl⟩ := Prod.mk.inj (Option.some.inj h)
          exact ⟨ds, rfl, last hds⟩
        · cases h
    · cases h

theorem spelled_of_readBracketed (hitem : Trusts readItem Item)
    (last : ∀ {a cs}, Item a cs → Items [a] cs)
    (more : ∀ {a as cs ds}, Item a cs → Items as ds → Items (a :: as) (cs ++ ',' :: ds))
    {cs rest : List Char} {as : List α}
    (h : readBracketed readItem close cs = some (as, rest)) :
    ∃ ds, cs = ds ++ close :: rest ∧ (as = [] ∧ IsSpacing ds ∨ Items as ds) := by
  unfold readBracketed at h
  split at h
  · next hclose =>
    obtain ⟨tail, htail⟩ := List.head?_eq_some_iff.mp hclose
    obtain ⟨b, hb, hcs⟩ := exists_eq_append_skipSpacing cs
    rw [htail] at h hcs
    obtain ⟨rfl, rfl⟩ := Prod.mk.inj (Option.some.inj h)
    exact ⟨b, hcs, .inl ⟨rfl, hb⟩⟩
  · obtain ⟨ds, hcs, hds⟩ := spelled_of_readItems Items hitem last more h
    exact ⟨ds, hcs, .inr hds⟩

section Values

variable {read : List Char → Option (JsonValue × List Char)}
  (hread : Trusts read fun v => Spells (.value v))
include hread

theorem trusts_readElement : Trusts (readElement read) fun v => Spells (.element v) := by
  intro cs v rest h
  simp only [readElement, Option.map_eq_some_iff, Prod.exists, Prod.mk.injEq] at h
  obtain ⟨_, tail, hv, rfl, rfl⟩ := h
  obtain ⟨b, hb, hcs⟩ := exists_eq_append_skipSpacing cs
  obtain ⟨ds, hskip, hds⟩ := hread _ _ _ hv
  obtain ⟨b', hb', htail⟩ := exists_eq_append_skipSpacing tail
  refine ⟨b ++ (ds ++ b'), ?_, .element hb hds hb'⟩
  rw [hcs, hskip, List.append_assoc, List.append_assoc, ← htail]

theorem trusts_readMember : Trusts (readMember read) fun m => Spells (.member m) := by
  intro cs m rest h
  simp only [readMember, Option.bind_eq_some_iff, Prod.exists] at h
  obtain ⟨key, tail, hkey, h⟩ := h
  obtain ⟨b, hb, hcs⟩ := exists_eq_append_skipSpacing cs
  obtain ⟨ks, hskip, hks⟩ := spellsString_of_readString hkey
  obtain ⟨b', hb', htail⟩ := exists_eq_append_skipSpacing tail
  split at h
  · next behind hcolon =>
    simp only [Option.map_eq_some_iff, Prod.exists, Prod.mk.injEq] at h
    obtain ⟨v, _, hv, rfl, rfl⟩ := h
    obtain ⟨ds, rfl, hds⟩ := trusts_readElement hread _ _ _ hv
    refine ⟨b ++ (ks ++ (b' ++ ':' :: ds)), ?_, .member hb hks hb' hds⟩
    rw [hcs, hskip, htail, hcolon]
    simp
  · cases h

theorem spells_of_readArray {cs rest : List Char} {vs : List JsonValue}
    (h : readBracketed (readElement read) ']' cs = some (vs, rest)) :
    ∃ ds, '[' :: cs = ds ++ rest ∧ Spells (.value (.array vs)) ds := by
  have hitems : ∃ ds, cs = ds ++ ']' :: rest ∧
      (vs = [] ∧ IsSpacing ds ∨ Spells (.elements vs) ds) :=
    spelled_of_readBracketed (fun vs => Spells (.elements vs)) (trusts_readElement hread)
      .lastElement .moreElements h
  obtain ⟨ds, rfl, hds⟩ := hitems
  refine ⟨'[' :: (ds ++ [']']), by simp, ?_⟩
  rcases hds with ⟨rfl, hb⟩ | hds
  · exact .emptyArray hb
  · exact .array hds

theorem spells_of_readObject {cs rest : List Char} {ms : List (String × JsonValue)}
    (h : readBracketed (readMember read) '\x7d' cs = some (ms, rest)) :
    ∃ ds, '\x7b' :: cs = ds ++ rest ∧ Spells (.value (.object ms)) ds := by
  have hitems : ∃ ds, cs = ds ++ '\x7d' :: rest ∧
      (ms = [] ∧ IsSpacing ds ∨ Spells (.members ms) ds) :=
    spelled_of_readBracketed (fun ms => Spells (.members ms)) (trusts_readMember hread)
      .lastMember .moreMembers h
  obtain ⟨ds, rfl, hds⟩ := hitems
  refine ⟨'\x7b' :: (ds ++ ['\x7d']), by simp, ?_⟩
  rcases hds with ⟨rfl, hb⟩ | hds
  · exact .emptyObject hb
  · exact .object hds

end Values

theorem spells_of_word {cs w : List Char} {v : JsonValue}
    (h : (words.find? fun u => u.1.isPrefixOf cs) = some (w, v)) :
    ∃ ds, cs = ds ++ cs.drop w.length ∧ Spells (.value v) ds := by
  have hprefix : w.isPrefixOf cs = true := by simpa using List.find?_some h
  have hword := Spells.word (List.mem_of_find?_eq_some h)
  obtain ⟨rest, rfl⟩ := List.isPrefixOf_iff_prefix.mp hprefix
  exact ⟨w, by rw [List.drop_left], hword⟩

theorem trusts_readValue (depth : Nat) : Trusts (readValue depth) fun v => Spells (.value v) := by
  induction depth with
  | zero =>
    intro cs v rest h
    simp [readValue] at h
  | succ depth ih =>
    intro cs v rest h
    cases cs with
    | nil => simp [readValue] at h
    | cons c cs =>
      rw [readValue] at h
      split at h
      · simp only [Option.map_eq_some_iff, Prod.exists, Prod.mk.injEq] at h
        obtain ⟨s, _, hs, rfl, rfl⟩ := h
        obtain ⟨ds, hcs, hds⟩ := spellsString_of_readString hs
        exact ⟨ds, hcs, .string hds⟩
      split at h
      · next hc =>
        simp only [Option.map_eq_some_iff, Prod.exists, Prod.mk.injEq] at h
        obtain ⟨vs, _, hvs, rfl, rfl⟩ := h
        rw [hc]
        exact spells_of_readArray ih hvs
      split at h
      · next hc =>
        simp only [Option.map_eq_some_iff, Prod.exists, Prod.mk.injEq] at h
        obtain ⟨ms, _, hms, rfl, rfl⟩ := h
        rw [hc]
        exact spells_of_readObject ih hms
      split at h
      · next w v hw =>
        obtain ⟨rfl, rfl⟩ := Prod.mk.inj (Option.some.inj h)
        exact spells_of_word hw
      · exact spells_of_readNumber h

theorem denotes_of_read? {text : String} {v : JsonValue} (h : read? text = some v) :
    Denotes text v := by
  unfold read? at h
  split at h
  · next w hw =>
    obtain rfl := Option.some.inj h
    obtain ⟨ds, htext, hds⟩ := trusts_readElement (trusts_readValue _) _ _ _ hw
    rw [List.append_nil] at htext
    rwa [Denotes, htext]
  · cases h

end Sound

theorem read?_eq_some_iff {text : String} {v : JsonValue} :
    read? text = some v ↔ Denotes text v :=
  ⟨denotes_of_read?, read?_of_denotes⟩

example : read? " \"\\ud83d\\uDE00\" " = some (.string "😀") := by rfl

example : read? "\"\\ud83d\"" = none := by rfl

end GameShelf.JsonValue
