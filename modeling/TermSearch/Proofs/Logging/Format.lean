import TermSearch.Logging.Configuration
import TermSearch.Proofs.Text.Occurrence
import TermSearch.Proofs.Value.Fields

/-!
# Templates

A template is a format of the simplest kind: a row of texts and of fields that are written as they
are. Every text can be had in a template, with its percent signs doubled. What is written with a
template are the texts and fields in their order, for every record, unless a field is named that
records do not have; then nothing is. The formats that a setup chooses of itself are templates.

## Main definitions

- `LogFormat.Segment`: a text or a field.
- `LogFormat.template`: the format for a row of segments.

## Main statements

- `LogFormat.pieces?_template`: a template is read as what it was made of.
- `LogFormat.render?_template`: what is written with a template.
- `LogFormat.isSome_render?_template_iff`: which templates can be written.
- `LogFormat.isValid_template`: templates that are accepted.
- `Logging.render?_standardFormat`: what is written where a setup chooses the format.
-/

namespace TermSearch

/-- The directive that writes the field of a name as it is. -/
def Directive.plain (name : String) : Directive :=
  ⟨some name, .plain, 0, none, 's'⟩

/-- A plain directive writes the field of its name, whatever is at hand. -/
theorem Directive.write?_plain (fields : Fields LogField) (atHand? : Option Argument)
    (name : String) :
    (Directive.plain name).write? fields atHand? =
      (Fields.get? fields name).map fun field => field.display.toList := by
  have hconvert : ∀ argument, (Directive.plain name).convert? argument = some argument.display := by
    simp [convert?, textOf, fillUp, Directive.plain, Flags.plain]
  change (Fields.get? fields name).bind _ = _
  cases Fields.get? fields name with
  | none => rfl
  | some field => exact hconvert (.field field)

/-- The names of the fields that records have, the time included. -/
def LogRecord.fieldNames : List String := [
  "name", "msg", "args", "levelname", "levelno", "pathname", "filename", "module", "exc_info",
  "exc_text", "stack_info", "lineno", "funcName", "created", "msecs", "relativeCreated", "thread",
  "threadName", "processName", "process", "message", "asctime"]

theorem LogRecord.names_commonFields (record : LogRecord) (occasion : Occasion) :
    Fields.names (record.commonFields occasion) ++ ["asctime"] = fieldNames :=
  rfl

namespace LogFormat

/-- A part of a template: a text, or the field of a name. -/
inductive Segment where
  | text (s : String)
  | field (name : String)

namespace Segment

/-- A text as it is spelled in a format. -/
def escaped (cs : List Char) : List Char :=
  cs.flatMap fun c => if c = '%' then ['%', '%'] else [c]

/-- A segment as it is spelled in a format. -/
def spelling : Segment → List Char
  | text s => escaped s.toList
  | field name => '%' :: '(' :: name.toList ++ [')', 's']

/-- The key of a field can be told from what is around it. -/
def IsPlain : Segment → Prop
  | text _ => True
  | field name => '(' ∉ name.toList ∧ ')' ∉ name.toList

/-- The pieces that a segment is read as. -/
def pieces : Segment → List Piece
  | text s => s.toList.map .char
  | field name => [.directive (.plain name)]

/-- What is to be written for a segment, if there is such a field. -/
def written? (fields : Fields LogField) : Segment → Option (List Char)
  | text s => some s.toList
  | field name => (Fields.get? fields name).map fun f => f.display.toList

end Segment

/-- The format for a row of segments. -/
def template (segments : List Segment) : String :=
  String.ofList (segments.flatMap Segment.spelling)

/-! ## Reading -/

namespace Reading

/-- Reading goes on from what one more character has led to. -/
theorem pieces?_cons {reading next : Reading} {c : Char} {complete : List Piece}
    (h : reading.next? c = some (next, complete)) (rest : List Char) :
    reading.pieces? (c :: rest) = (next.pieces? rest).map (complete ++ ·) := by
  rw [pieces?, h]
  cases hrest : next.pieces? rest <;> simp [hrest]

/-- Where nothing is complete by it, the character only changes how far was read. -/
theorem pieces?_cons_of_nil {reading next : Reading} {c : Char}
    (h : reading.next? c = some (next, [])) (rest : List Char) :
    reading.pieces? (c :: rest) = next.pieces? rest :=
  (pieces?_cons h rest).trans Option.map_id'

/-- A text with its percent signs doubled is read as that text. -/
theorem pieces?_escaped_append (cs rest : List Char) :
    text.pieces? (Segment.escaped cs ++ rest) =
      (text.pieces? rest).map (cs.map Piece.char ++ ·) := by
  induction cs with
  | nil => simp [Segment.escaped]
  | cons c cs ih =>
    have hcons : text.pieces? (Segment.escaped (c :: cs) ++ rest) =
        (text.pieces? (Segment.escaped cs ++ rest)).map (Piece.char c :: ·) := by
      rw [Segment.escaped, List.flatMap_cons, List.append_assoc]
      split
      · next hc =>
        subst hc
        have hsecond : percent.next? '%' = some (text, [.char '%']) := rfl
        exact (pieces?_cons_of_nil rfl _).trans (pieces?_cons hsecond _)
      · next hc =>
        have hnext : text.next? c = some (text, [.char c]) := by rw [next?, if_neg hc]
        exact pieces?_cons hnext _
    rw [hcons, ih, Option.map_map]
    rfl

/-- A key without parentheses in it is read up to the one behind it. -/
theorem pieces?_key_append {cs : List Char} (hopen : '(' ∉ cs) (hclose : ')' ∉ cs)
    (reversed rest : List Char) :
    (key 0 reversed).pieces? (cs ++ ')' :: rest) =
      (directive .flags (begun (some (String.ofList (reversed.reverse ++ cs))))).pieces? rest := by
  induction cs generalizing reversed with
  | nil =>
    rw [List.nil_append, List.append_nil]
    exact pieces?_cons_of_nil rfl rest
  | cons c cs ih =>
    rw [List.mem_cons, not_or] at hopen hclose
    obtain ⟨hc, hcs⟩ := hopen
    obtain ⟨hc', hcs'⟩ := hclose
    have hnext : (key 0 reversed).next? c = some (key 0 (c :: reversed), []) := by
      rw [next?, if_neg (Ne.symm hc'), if_neg (Ne.symm hc)]
    rw [List.cons_append, pieces?_cons_of_nil hnext, ih hcs hcs', List.reverse_cons,
      List.append_assoc, List.singleton_append]

/-- A segment is read as its pieces. -/
theorem pieces?_spelling_append {segment : Segment} (h : segment.IsPlain) (rest : List Char) :
    text.pieces? (segment.spelling ++ rest) = (text.pieces? rest).map (segment.pieces ++ ·) := by
  cases segment with
  | text s => exact pieces?_escaped_append s.toList rest
  | field name =>
    obtain ⟨hopen, hclose⟩ := h
    have hconversion : (directive .flags (begun (some name))).next? 's' =
        some (text, (Segment.field name).pieces) := rfl
    calc text.pieces? ((Segment.field name).spelling ++ rest)
        = (key 0 []).pieces? (name.toList ++ ')' :: 's' :: rest) := by
          rw [Segment.spelling, List.append_assoc, List.cons_append, List.cons_append,
            pieces?_cons_of_nil rfl, pieces?_cons_of_nil rfl]
          rfl
      _ = (directive .flags (begun (some name))).pieces? ('s' :: rest) := by
          rw [pieces?_key_append hopen hclose, List.reverse_nil, List.nil_append,
            String.ofList_toList]
      _ = (text.pieces? rest).map ((Segment.field name).pieces ++ ·) :=
          pieces?_cons hconversion rest

end Reading

/-- A template is read as what it was made of. -/
theorem pieces?_template {segments : List Segment} (h : ∀ segment ∈ segments, segment.IsPlain) :
    pieces? (template segments) = some (segments.flatMap Segment.pieces) := by
  rw [pieces?, template, String.toList_ofList]
  induction segments with
  | nil => rfl
  | cons segment segments ih =>
    obtain ⟨hsegment, hsegments⟩ := List.forall_mem_cons.mp h
    rw [List.flatMap_cons, Reading.pieces?_spelling_append hsegment, ih hsegments]
    rfl

/-! ## Writing -/

variable {fields : Fields LogField}

/-- Characters are written as they are. -/
theorem fill?_char_append (atHand? : Option Argument) (cs : List Char) (rest : List Piece) :
    fill? fields atHand? (cs.map Piece.char ++ rest) =
      (fill? fields atHand? rest).map (cs ++ ·) := by
  induction cs with
  | nil => simp
  | cons c cs ih =>
    rw [List.map_cons, List.cons_append, fill?, ih]
    cases fill? fields atHand? rest <;> rfl

/-- A segment is written in front of what is behind it, if it can be written. -/
theorem fill?_pieces_append (atHand? : Option Argument) (segment : Segment) (rest : List Piece) :
    ∃ behind?, fill? fields atHand? (segment.pieces ++ rest) =
      (segment.written? fields).bind fun written =>
        (fill? fields behind? rest).map (written ++ ·) := by
  cases segment with
  | text s => exact ⟨atHand?, fill?_char_append atHand? s.toList rest⟩
  | field name =>
    refine ⟨none, ?_⟩
    rw [Segment.pieces, List.singleton_append, fill?, Directive.write?_plain, Segment.written?]
    cases Fields.get? fields name with
    | none => rfl
    | some field => cases fill? fields none rest <;> rfl

/-- What is written for segments does not depend on what is at hand. -/
theorem fill?_pieces (atHand? : Option Argument) (segments : List Segment) :
    fill? fields atHand? (segments.flatMap Segment.pieces) =
      (segments.mapM (Segment.written? fields)).map List.flatten := by
  induction segments generalizing atHand? with
  | nil => rfl
  | cons segment segments ih =>
    obtain ⟨behind?, hfill⟩ :=
      fill?_pieces_append atHand? segment (segments.flatMap Segment.pieces)
    rw [List.flatMap_cons, hfill, ih, List.mapM_cons]
    cases segment.written? fields with
    | none => rfl
    | some written => cases segments.mapM (Segment.written? fields) <;> rfl

/-- What is written with a template are its texts and the fields that it names, in their order, for
every record; nothing is, if one of them is no field of a record. -/
theorem render?_template {segments : List Segment} (h : ∀ segment ∈ segments, segment.IsPlain)
    (occasion : Occasion) (record : LogRecord) :
    render? (template segments) occasion record =
      (segments.mapM (Segment.written? (record.fields (template segments) occasion))).map
        fun texts => String.ofList texts.flatten := by
  rw [render?, pieces?_template h]
  dsimp only
  rw [Option.bind_eq_bind, Option.bind_some, fill?_pieces]
  cases segments.mapM (Segment.written? (record.fields (template segments) occasion)) <;> rfl

/-! ## Which templates can be written -/

/-- A template is read as what is around a segment of it, and that segment. -/
theorem exists_template_eq_append {segments : List Segment} {segment : Segment}
    (h : segment ∈ segments) :
    ∃ before after, (template segments).toList = before ++ segment.spelling ++ after := by
  obtain ⟨front, rest, rfl⟩ := List.append_of_mem h
  refine ⟨front.flatMap Segment.spelling, rest.flatMap Segment.spelling, ?_⟩
  rw [template, String.toList_ofList, List.flatMap_append, List.flatMap_cons, List.append_assoc]

/-- Where a directive begins behind some text, there is one in the whole. -/
theorem hasDirective_append (before : List Char) {cs : List Char} (h : beginsDirective cs = true) :
    hasDirective (before ++ cs) = true := by
  induction before with
  | nil =>
    cases cs with
    | nil => exact nomatch h
    | cons c rest => rw [List.nil_append, hasDirective, h, Bool.true_or]
  | cons c before ih => rw [List.cons_append, hasDirective, ih, Bool.or_true]

/-- A template is accepted if one of the names in it is a word. -/
theorem isValid_template {segments : List Segment} {name : String} (h : .field name ∈ segments)
    (hne : name.toList ≠ []) (hword : ∀ c ∈ name.toList, Unicode.isWordCharacter c = true) :
    isValid (template segments) = true := by
  obtain ⟨before, after, heq⟩ := exists_template_eq_append h
  rw [isValid, heq, List.append_assoc]
  refine hasDirective_append before ?_
  have hparen : Unicode.isWordCharacter ')' = false := by decide +kernel
  have hdrop : (name.toList ++ ')' :: 's' :: after).dropWhile Unicode.isWordCharacter =
      ')' :: 's' :: after := by
    rw [List.dropWhile_append_of_pos hword, List.dropWhile_cons_of_neg (by simp [hparen])]
  have hhead : (name.toList ++ ')' :: 's' :: after).head? ≠ some ')' := by
    obtain ⟨c, cs, hcs⟩ := List.exists_cons_of_ne_nil hne
    intro heq
    obtain rfl : c = ')' := by simpa [hcs] using heq
    simp [hcs, hparen] at hword
  have hends : endsDirective ('s' :: after) = true := rfl
  have hspelling : (Segment.field name).spelling ++ after =
      '%' :: '(' :: (name.toList ++ ')' :: 's' :: after) := by
    simp [Segment.spelling]
  rw [hspelling, beginsDirective, hdrop]
  exact Bool.and_eq_true_iff.mpr ⟨bne_iff_ne.mpr hhead, hends⟩

/-- A template that names the time asks for it. -/
theorem asksForTime_template {segments : List Segment} (h : .field "asctime" ∈ segments) :
    LogRecord.asksForTime (template segments) = true := by
  obtain ⟨before, after, heq⟩ := exists_template_eq_append h
  rw [LogRecord.asksForTime, Text.occurs_eq_true_iff]
  exact ⟨before, 's' :: after, by simpa [Segment.spelling] using heq, rfl⟩

/-- The fields that a template names are fields of a record, if they are among those that records
have for some format. -/
theorem mem_names_fields_iff {segments : List Segment} {name : String}
    (h : .field name ∈ segments) (occasion : Occasion) (record : LogRecord) :
    name ∈ Fields.names (record.fields (template segments) occasion) ↔
      name ∈ LogRecord.fieldNames := by
  rw [LogRecord.fields, Fields.names, List.map_append, List.mem_append,
    ← LogRecord.names_commonFields record occasion, List.mem_append, Fields.names]
  refine or_congr_right ?_
  by_cases htime : name = "asctime"
  · subst htime
    simp [asksForTime_template h]
  · split <;> simp [htime]

private theorem isSome_mapM_iff {α β : Type} {f : α → Option β} {l : List α} :
    (l.mapM f).isSome = true ↔ ∀ a ∈ l, (f a).isSome = true := by
  induction l with
  | nil => simp
  | cons a l ih =>
    rw [List.mapM_cons, List.forall_mem_cons, ← ih]
    cases f a <;> cases l.mapM f <;> simp

/-- A template can be written with every record, or with none: it depends on the names of the fields
alone. -/
theorem isSome_render?_template_iff {segments : List Segment}
    (h : ∀ segment ∈ segments, segment.IsPlain) (occasion : Occasion) (record : LogRecord) :
    (render? (template segments) occasion record).isSome = true ↔
      ∀ name, .field name ∈ segments → name ∈ LogRecord.fieldNames := by
  rw [render?_template h, Option.isSome_map, isSome_mapM_iff]
  have hfield : ∀ name, .field name ∈ segments →
      (((Segment.field name).written? (record.fields (template segments) occasion)).isSome = true ↔
        name ∈ LogRecord.fieldNames) := by
    intro name hname
    rw [Segment.written?, Option.isSome_map, Option.isSome_iff_ne_none, ne_eq,
      Fields.get?_eq_none_iff, Decidable.not_not, mem_names_fields_iff hname]
  constructor
  · exact fun hall name hname => (hfield name hname).mp (hall _ hname)
  · intro hall segment hsegment
    cases segment with
    | text s => rfl
    | field name => exact (hfield name hsegment).mpr (hall name hsegment)

end LogFormat

/-! ## The formats that setups choose -/

namespace Logging

open LogFormat (Segment template)

/-- The formats that a setup chooses of itself are templates. -/
def standardSegments (withTime : Bool) : List Segment :=
  (if withTime then [.field "asctime", .text " - "] else []) ++
    [.field "name", .text " - ", .field "levelname", .text " - ", .field "message"]

theorem template_standardSegments (withTime : Bool) :
    template (standardSegments withTime) = standardFormat withTime := by
  cases withTime <;> decide +kernel

/-- Every record can be written where a setup chooses the format of itself. The line tells the
logger, the severity and the message, and the time if it is to be told. -/
theorem render?_standardFormat (withTime : Bool) (occasion : Occasion) (record : LogRecord) :
    LogFormat.render? (standardFormat withTime) occasion record =
      some ((if withTime then occasion.time ++ " - " else "") ++ record.logger ++ " - " ++
        record.severity.label ++ " - " ++ record.message) := by
  have hplain : ∀ segment ∈ standardSegments withTime, segment.IsPlain := by
    cases withTime <;> simp [standardSegments, Segment.IsPlain]
  have htime : LogRecord.asksForTime (standardFormat withTime) = withTime := by
    cases withTime <;> decide +kernel
  rw [← template_standardSegments, LogFormat.render?_template hplain, template_standardSegments,
    LogRecord.fields, htime]
  cases withTime <;>
    simp [standardSegments, Segment.written?, LogRecord.commonFields, Fields.get?, List.lookup_cons,
      LogField.display, ← String.toList_inj]

end Logging

end TermSearch
