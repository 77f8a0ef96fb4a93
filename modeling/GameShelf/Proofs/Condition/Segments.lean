import GameShelf.Proofs.Text.Trim
import GameShelf.Query

namespace GameShelf

namespace Condition

theorem read_around {w v : List Char} (hw : IsBlanks w) (hv : IsBlanks v) (cs : List Char) :
    read (String.ofList (w ++ cs ++ v)) = read (String.ofList cs) := by
  simp only [read, String.toList_ofList, trimChars_around hw hv]

/-- What is read between the commas of a text, blank or not. -/
def readSegments (cs : List Char) : List (Except Fault Condition) :=
  (cs.splitOn ',').map fun part => read (String.ofList part)

theorem readSegments_append_comma (cs ds : List Char) :
    readSegments (cs ++ ',' :: ds) = readSegments cs ++ readSegments ds := by
  rw [readSegments, List.splitOn_append_cons_self, List.map_append]
  rfl

theorem readSegments_of_notMem {cs : List Char} (h : ',' ∉ cs) :
    readSegments cs = [read (String.ofList cs)] := by
  rw [readSegments, List.splitOn_eq_singleton h]
  rfl

theorem comma_notMem_of_isBlanks {w : List Char} (hw : IsBlanks w) : ',' ∉ w := by
  intro hmem
  have hblank := hw ',' hmem
  revert hblank
  decide

/-- Blanks before an expression belong to its first segment, blanks behind it to its last. -/
theorem readSegments_around {w v : List Char} (hw : IsBlanks w) (hv : IsBlanks v)
    (cs : List Char) : readSegments (w ++ cs ++ v) = readSegments cs := by
  have hw' := comma_notMem_of_isBlanks hw
  have hv' := comma_notMem_of_isBlanks hv
  by_cases hcomma : ',' ∈ cs
  · -- the first segment takes the blanks in front, the segments after it those behind
    obtain ⟨first, rest, rfl, hfirst⟩ := List.eq_append_cons_of_mem hcomma
    have hnil : IsBlanks [] := by simp [IsBlanks]
    have hrest := readSegments_around hnil hv rest
    have hread := read_around hw hnil first
    have hsplit : w ++ (first ++ ',' :: rest) ++ v = (w ++ first) ++ ',' :: (rest ++ v) := by simp
    rw [List.nil_append] at hrest
    rw [List.append_nil] at hread
    rw [hsplit, readSegments_append_comma, readSegments_append_comma, hrest,
      readSegments_of_notMem hfirst, readSegments_of_notMem (by simp [hw', hfirst]), hread]
  · rw [readSegments_of_notMem hcomma, readSegments_of_notMem (by simp [hw', hcomma, hv']),
      read_around hw hv]
termination_by cs.length

theorem readSegments_trimChars (cs : List Char) :
    readSegments (trimChars cs) = readSegments cs := by
  obtain ⟨w, v, hw, hv, hcs⟩ := exists_eq_append_trimChars cs
  conv_rhs => rw [hcs, readSegments_around hw hv]

def IsMalformed (segment : String) : Prop :=
  ',' ∉ segment.toList ∧ ∃ fault, read segment = .error fault

end Condition

namespace Query

open Condition

/-- A blank expression has one segment, which is no condition, so that it makes no difference that
none is read. -/
theorem conditions_ofExpression (expression : String) :
    (ofExpression expression).conditions =
      (readSegments expression.toList).filterMap Except.toOption := by
  rw [← readSegments_trimChars]
  by_cases hblank : trimChars expression.toList = []
  · simp only [ofExpression, readAll, hblank]
    rfl
  · have hne := List.isEmpty_eq_false_iff.mpr hblank
    simp only [ofExpression, readAll, hne, Bool.false_eq_true, if_false]
    rfl

theorem conditions_of_isBlanks {expression : String} (h : IsBlanks expression.toList) :
    (ofExpression expression).conditions = [] := by
  have hnil : IsBlanks [] := by simp [IsBlanks]
  have hread := readSegments_around h hnil []
  rw [List.append_nil, List.append_nil] at hread
  rw [conditions_ofExpression, hread]
  rfl

theorem conditions_append_comma (first second : String) :
    (ofExpression (first ++ "," ++ second)).conditions =
      (ofExpression first).conditions ++ (ofExpression second).conditions := by
  have hlist : (first ++ "," ++ second).toList = first.toList ++ ',' :: second.toList := by simp
  simp only [conditions_ofExpression, hlist, readSegments_append_comma, List.filterMap_append]

theorem conditions_intercalate (segments : List String) :
    (ofExpression (",".intercalate segments)).conditions =
      segments.flatMap fun segment => (ofExpression segment).conditions := by
  induction segments with
  | nil => rfl
  | cons segment segments ih =>
    by_cases hnil : segments = []
    · simp [hnil]
    · rw [String.intercalate_cons_of_ne_nil hnil, conditions_append_comma, ih, List.flatMap_cons]

theorem conditions_of_isMalformed {segment : String} (h : IsMalformed segment) :
    (ofExpression segment).conditions = [] := by
  obtain ⟨hcomma, fault, hread⟩ := h
  rw [conditions_ofExpression, readSegments_of_notMem hcomma, String.ofList_toList, hread]
  rfl

theorem ofExpression_eq_of_conditions {first second : String}
    (h : (ofExpression first).conditions = (ofExpression second).conditions) :
    ofExpression first = ofExpression second :=
  congrArg (fun conditions => Query.mk conditions .byName) h

/-- The conditions of two expressions with a comma between them are those of the one followed by
those of the other. A malformed segment may stand anywhere among the segments of an expression
without changing the query, and with it any result, and malformed segments alone make the query of
the empty expression. -/
theorem expressions_compose :
    (∀ first second, (ofExpression (first ++ "," ++ second)).conditions =
      (ofExpression first).conditions ++ (ofExpression second).conditions) ∧
    (∀ (before after : List String) (segment : String), IsMalformed segment →
      ofExpression (",".intercalate (before ++ segment :: after)) =
        ofExpression (",".intercalate (before ++ after))) ∧
    ∀ segments : List String, (∀ segment ∈ segments, IsMalformed segment) →
      ofExpression (",".intercalate segments) = ofExpression "" := by
  refine ⟨conditions_append_comma, fun before after segment h => ?_, fun segments h => ?_⟩
  · apply ofExpression_eq_of_conditions
    simp only [conditions_intercalate, List.flatMap_append, List.flatMap_cons,
      conditions_of_isMalformed h, List.nil_append]
  · apply ofExpression_eq_of_conditions
    rw [conditions_intercalate]
    exact List.flatMap_eq_nil_iff.mpr fun segment hs => conditions_of_isMalformed (h segment hs)

theorem expressions_compose_around_excluded :
    let found : List Condition := [⟨.year, .gte, .integer 1999⟩, ⟨.name, .contains, .string "go"⟩]
    IsMalformed " id==3" ∧ IsMalformed "" ∧
      ofExpression " , year>=1999 , id==3,,name~=go " =
        ofExpression " , year>=1999 ,,name~=go " ∧
      (ofExpression " , year>=1999 ,,name~=go ").conditions = found ∧
      ofExpression " id==3," = ofExpression "" := by
  intro found
  have hexcluded : IsMalformed " id==3" := ⟨by decide, .excludedColumn .id, by decide⟩
  have hblank : IsMalformed "" := ⟨by decide, .empty, by decide⟩
  have hall : ∀ segment ∈ [" id==3", ""], IsMalformed segment := by simp [hexcluded, hblank]
  have hwith : ",".intercalate [" ", " year>=1999 ", " id==3", "", "name~=go "] =
      " , year>=1999 , id==3,,name~=go " := by decide
  have hwithout : ",".intercalate [" ", " year>=1999 ", "", "name~=go "] =
      " , year>=1999 ,,name~=go " := by decide
  have honly : ",".intercalate [" id==3", ""] = " id==3," := by decide
  have happend : " , year>=1999 " ++ "," ++ ",name~=go " = " , year>=1999 ,,name~=go " := by decide
  have hfirst : (ofExpression " , year>=1999 ").conditions =
      [⟨.year, .gte, .integer 1999⟩] := by decide
  have hsecond : (ofExpression ",name~=go ").conditions =
      [⟨.name, .contains, .string "go"⟩] := by decide
  obtain ⟨hcompose, hinsert, hmalformed⟩ := expressions_compose
  have hinserted := hinsert [" ", " year>=1999 "] ["", "name~=go "] _ hexcluded
  have hfound := hcompose " , year>=1999 " ",name~=go "
  have hempty := hmalformed [" id==3", ""] hall
  simp only [List.cons_append, List.nil_append, hwith, hwithout] at hinserted
  rw [happend, hfirst, hsecond] at hfound
  rw [honly] at hempty
  exact ⟨hexcluded, hblank, hinserted, hfound, hempty⟩

end Query
end GameShelf
