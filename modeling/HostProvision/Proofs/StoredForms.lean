import HostProvision.Proofs.Wire

/-! # Accepted forms of stored values

Which texts are parsed as a value of the data model. What is printed for it is only one of them.

* `Form` says which texts a record with declared fields may be parsed from: objects that hold each
  field once, in any order and among any other members, and arrays of the fields in order.
* `RecordForms` says that these are all, and what is refused; `recordForms_of_read` proves it of any
  record from how its fields are read.
* `ElapsedForms` says the same of elapsed times, which admit no other members, and when the parts of
  one make one up.
* **The accepted forms of the data model**, `Stored.forms_dataModel`. -/

namespace HostProvision

open Json

/-! ## Forms of records -/

/-- A declared field of a record. -/
structure Field (α : Type) where
  /-- The name of the field. -/
  name : String
  /-- Which texts are parsed as the field of a record. -/
  Parses : α → String → Prop

variable {α β γ : Type}

/-- The members with the name of a field. -/
def Field.members (field : Field α) (members : List MemberText) : List MemberText :=
  members.filter fun member => member.key = some field.name

/-- A text in which a record may be stored. -/
inductive Form (fields : List (Field α)) (value : α) (text : String) : Prop where
  /-- An object that has each declared field once, with a text that is parsed as the field. All its
  keys are texts. -/
  | object (members : List MemberText) (spelled : ObjectText members text)
      (named : ∀ member ∈ members, member.key ≠ none)
      (declared : ∀ field ∈ fields, ∃ part, field.members members = [⟨some field.name, part⟩] ∧
        field.Parses value part)
  /-- An array of texts that are parsed as the fields, in order. -/
  | array (items : List String) (spelled : ArrayText items text)
      (declared : List.Forall₂ (fun field item => field.Parses value item) fields items)

/-- The texts that are parsed as a record, and those that are refused. -/
structure RecordForms [Stored α] (fields : List (Field α)) : Prop where
  /-- A text is parsed as a record exactly if it is one of its forms. -/
  accepted_iff : ∀ value text, Stored.parse? text = some value ↔ Form fields value text
  /-- An object that lacks a declared field, or repeats one, is refused. -/
  once : ∀ members text, ObjectText members text →
    (∃ field ∈ fields, (field.members members).length ≠ 1) →
      (Stored.parse? text : Option α) = none
  /-- An object with a key that is no text is refused. -/
  named : ∀ members text, ObjectText members text → (∃ member ∈ members, member.key = none) →
    (Stored.parse? text : Option α) = none
  /-- An array that is shorter or longer than the declaration is refused. -/
  whole : ∀ items text, ArrayText items text → items.length ≠ fields.length →
    (Stored.parse? text : Option α) = none

namespace Stored

variable [Stored α] [Stored β] [Stored γ]

/-- A text is parsed as what the value stands for that it spells. -/
theorem parse?_of_spells {value : Value} {text : String} (h : value.Spells text) :
    (parse? text : Option α) = restore? value := by
  rw [parse?, Value.parse?_eq_some_iff.mpr h, Option.bind_some]

section Record

variable {fields : List (Field α)} {read : List Value → Option α}
  (restored : ∀ whole : Value, restore? whole = (whole.fields? (fields.map Field.name)).bind read)
  (settled : ∀ value values texts, List.Forall₂ Value.Spells values texts →
    (read values = some value ↔
      List.Forall₂ (fun field text => field.Parses value text) fields texts))

include restored settled

/-- An array is parsed as a record if its items are parsed as the fields. -/
theorem parse?_arrayText_iff {items : List String} {text : String} (h : ArrayText items text)
    {value : α} : parse? text = some value ↔
      List.Forall₂ (fun field item => field.Parses value item) fields items := by
  obtain ⟨values, spelled, array⟩ := h.exists_items
  rw [parse?_of_spells array, restored, Value.fields?]
  split
  · exact settled value values items spelled
  · rename_i other
    refine iff_of_false (by simp) fun declared => other ?_
    rw [List.length_map, spelled.length_eq, declared.length_eq]

/-- An object is parsed as a record if all its keys are texts and each field is declared once, with a
text that is parsed as the field. -/
theorem parse?_objectText_iff {members : List MemberText} {text : String}
    (h : ObjectText members text) {value : α} : parse? text = some value ↔
      (∀ member ∈ members, member.key ≠ none) ∧
        ∀ field ∈ fields, ∃ part, field.members members = [⟨some field.name, part⟩] ∧
          field.Parses value part := by
  obtain ⟨values, matched, object⟩ := h.exists_members
  rw [parse?_of_spells object, restored]
  rcases Value.fields?_object matched (fields.map Field.name) with
    ⟨named, looked⟩ | ⟨⟨member, mem, unnamed⟩, refused⟩
  · rw [looked, and_iff_right named]
    simp only [Option.bind_eq_some_iff, Value.mapM_member?_eq_some_iff matched,
      List.forall₂_map_left_iff]
    constructor
    · rintro ⟨parts, ⟨found, once, spelled⟩, same⟩
      have declared := (settled value parts found spelled).mp same
      have both := List.Forall₂.mp (fun _ _ => And.intro) once declared
      exact Value.exists_forall₂_iff.mp ⟨found, both.flip⟩
    · intro declared
      obtain ⟨found, both⟩ := Value.exists_forall₂_iff.mpr declared
      have both := List.Forall₂.flip both
      have json : ∀ part ∈ found, ∃ value : Value, value.Spells part := by
        intro part mem
        obtain ⟨field, one, -⟩ := Value.exists_forall₂_iff.mp ⟨fields, both⟩ part mem
        have member : ⟨some field.name, part⟩ ∈ members :=
          List.mem_of_mem_filter (one ▸ List.mem_cons_self)
        obtain ⟨parsed, -, spelled⟩ := Value.exists_forall₂_iff.mp ⟨values, matched⟩ _ member
        exact ⟨parsed.2, spelled⟩
      obtain ⟨parts, spelled⟩ := Value.exists_forall₂_iff.mpr json
      exact ⟨parts, ⟨found, both.imp fun _ _ => And.left, spelled⟩,
        (settled value parts found spelled).mpr (both.imp fun _ _ => And.right)⟩
  · rw [refused]
    exact iff_of_false (by simp) fun all => all.1 member mem unnamed

/-- **The forms of a record**, from how its fields are read. -/
theorem recordForms_of_read : RecordForms fields where
  accepted_iff value text := by
    constructor
    · intro h
      obtain ⟨whole, parsed, same⟩ := Option.bind_eq_some_iff.mp h
      have spelled := Value.parse?_eq_some_iff.mp parsed
      have looked := restored whole
      rw [same] at looked
      cases whole with
      | array items =>
        obtain ⟨texts, -, array⟩ := Value.spells_array_iff.mp spelled
        exact .array texts array ((parse?_arrayText_iff restored settled array).mp h)
      | object members =>
        obtain ⟨texts, -, object⟩ := Value.spells_object_iff.mp spelled
        obtain ⟨named, declared⟩ := (parse?_objectText_iff restored settled object).mp h
        exact .object texts object named declared
      | _ => cases looked
    · rintro (⟨members, object, named, declared⟩ | ⟨items, array, declared⟩)
      · exact (parse?_objectText_iff restored settled object).mpr ⟨named, declared⟩
      · exact (parse?_arrayText_iff restored settled array).mpr declared
  once members text object := by
    rintro ⟨field, mem, many⟩
    refine Option.eq_none_iff_forall_ne_some.mpr fun value parsed => ?_
    obtain ⟨-, declared⟩ := (parse?_objectText_iff restored settled object).mp parsed
    obtain ⟨part, one, -⟩ := declared field mem
    exact many (congrArg List.length one)
  named members text object := by
    rintro ⟨member, mem, unnamed⟩
    refine Option.eq_none_iff_forall_ne_some.mpr fun value parsed => ?_
    exact ((parse?_objectText_iff restored settled object).mp parsed).1 member mem unnamed
  whole items text array other := by
    refine Option.eq_none_iff_forall_ne_some.mpr fun value parsed => ?_
    exact other ((parse?_arrayText_iff restored settled array).mp parsed).length_eq.symm

end Record

/-- The declaration of a field whose type is stored. -/
def field (name : String) (get : α → β) : Field α :=
  ⟨name, fun value text => parse? text = some (get value)⟩

/-- **The forms of a record of two fields**, each of which has a type that is stored. -/
theorem recordForms_pair {first second : String} (make : β → γ → α) {getFirst : α → β}
    {getSecond : α → γ}
    (made : ∀ value one two, make one two = value ↔ one = getFirst value ∧ two = getSecond value)
    (restored : ∀ whole : Value,
      restore? whole = (whole.fields? [first, second]).bind (readPair make)) :
    RecordForms [field first getFirst, field second getSecond] := by
  refine recordForms_of_read restored fun value values texts spelled => ?_
  match values, texts, spelled with
  | [one, two], [text, text'], .cons h (.cons h' .nil) =>
    simp [readPair, field, parse?_of_spells h, parse?_of_spells h', Option.bind_eq_some_iff, made]
  | [], [], .nil => simp [readPair]
  | [one], [text], .cons h .nil => simp [readPair]
  | one :: two :: three :: values, text :: text' :: other :: texts, .cons h (.cons h' (.cons more hs)) =>
    simp [readPair]

/-! ## The records of the data model -/

/-- The forms of a formula. -/
theorem recordForms_formula :
    RecordForms [field "name" Formula.name, field "extra_args" Formula.extraArgs] :=
  recordForms_pair Formula.mk (fun _ _ _ => Formula.ext_iff) fun _ => rfl

/-- An array of the fields, and an object that has them among other members. -/
example : parse? "[\"a\", []]" = some (⟨"a", []⟩ : Formula) ∧
    parse? "\x7b\"x\": [1e9, \x7b\x7d], \"extra_args\": [], \"x\": 0, \"name\": \"a\"\x7d" =
      some (⟨"a", []⟩ : Formula) := by
  decide +kernel

/-- The forms of a command line. -/
theorem recordForms_commandLine :
    RecordForms [field "program" CommandLine.program, field "args" CommandLine.args] :=
  recordForms_pair CommandLine.mk (fun _ _ _ => CommandLine.ext_iff) fun _ => rfl

/-- The forms of the record of a step. -/
theorem recordForms_stepRecord :
    RecordForms [field "name" StepRecord.name, field "elapsed" StepRecord.elapsed] :=
  recordForms_pair StepRecord.mk (fun _ _ _ => StepRecord.ext_iff) fun _ => rfl

/-- The forms of a report. -/
theorem recordForms_report :
    RecordForms [field "steps" Report.steps, field "path_update" Report.pathUpdate] :=
  recordForms_pair Report.mk (fun _ _ _ => Report.ext_iff) fun _ => rfl

/-- The declaration of the directory of an update, which is parsed from a text. -/
def directoryField : Field PathUpdate :=
  ⟨"dir", fun update text => ∃ directory : String, parse? text = some directory ∧
    update.directory = Utf8.encode directory⟩

/-- How an update is read. -/
def readDirectory : List Value → Option PathUpdate
  | [directory] => do return ⟨Utf8.encode (← directory.text?)⟩
  | _ => none

/-- The forms of an update. -/
theorem recordForms_pathUpdate : RecordForms [directoryField] := by
  have restored (whole : Value) : restore? whole =
      (whole.fields? ([directoryField].map Field.name)).bind readDirectory := rfl
  refine recordForms_of_read restored fun update values texts spelled => ?_
  match values, texts, spelled with
  | [directory], [text], .cons h .nil =>
    have parsed : (parse? text : Option String) = directory.text? := parse?_of_spells h
    simp [readDirectory, directoryField, parsed, Option.bind_eq_some_iff, PathUpdate.ext_iff,
      @eq_comm _ _ update.directory]
  | [], [], .nil => simp [readDirectory]
  | one :: two :: values, text :: text' :: texts, .cons h (.cons h' more) =>
    simp [readDirectory]

/-! ## Lists -/

/-- Items are restored as they are parsed from their texts. -/
theorem mapM_restore?_eq_some_iff {items : List Value} {texts : List String} {values : List α}
    (spelled : List.Forall₂ Value.Spells items texts) : items.mapM restore? = some values ↔
      List.Forall₂ (fun value text => parse? text = some value) values texts := by
  rw [Value.mapM_eq_some_iff]
  induction spelled generalizing values with
  | nil => simp
  | cons h _ ih =>
    simp only [List.forall₂_cons_left_iff, List.forall₂_cons_right_iff, ih, parse?_of_spells h]

/-- **The forms of a list** are the arrays of forms of its items. -/
theorem parse?_list_iff {values : List α} {text : String} :
    parse? text = some values ↔ ∃ items, ArrayText items text ∧
      List.Forall₂ (fun value item => parse? item = some value) values items := by
  constructor
  · intro h
    obtain ⟨whole, parsed, same⟩ := Option.bind_eq_some_iff.mp h
    cases whole with
    | array items =>
      obtain ⟨texts, spelled, array⟩ :=
        Value.spells_array_iff.mp (Value.parse?_eq_some_iff.mp parsed)
      exact ⟨texts, array, (mapM_restore?_eq_some_iff spelled).mp same⟩
    | _ => cases same
  · rintro ⟨texts, array, read⟩
    obtain ⟨items, spelled, whole⟩ := array.exists_items
    rw [parse?_of_spells whole]
    exact (mapM_restore?_eq_some_iff spelled).mpr read

end Stored

/-! ## Elapsed times -/

/-- The number below a bound that a text is parsed as. -/
def Json.parseBounded? (bound : Nat) (text : String) : Option Nat :=
  (Value.parse? text).bind (Value.bounded? bound)

/-- A text in which an elapsed time may be stored, from the texts of its two parts. -/
inductive ElapsedForm (secs nanos text : String) : Prop where
  /-- An object of both, in order. -/
  | ordered (spelled : ObjectText [⟨some "secs", secs⟩, ⟨some "nanos", nanos⟩] text)
  /-- An object of both, the nanoseconds first. -/
  | reversed (spelled : ObjectText [⟨some "nanos", nanos⟩, ⟨some "secs", secs⟩] text)
  /-- An array of both. -/
  | pair (spelled : ArrayText [secs, nanos] text)

/-- The texts that are parsed as an elapsed time, and those that are refused. -/
structure ElapsedForms : Prop where
  /-- Two parts make an elapsed time up exactly if their seconds fit into 64 bits, and then it is as
  long as both of them. -/
  fits : ∀ secsText nanosText text secs nanos, ElapsedForm secsText nanosText text →
    parseBounded? UInt64.size secsText = some secs →
    parseBounded? UInt32.size nanosText = some nanos →
      ((∃ elapsed : Elapsed, Stored.parse? text = some elapsed) ↔
        secs + nanos / Elapsed.nanosPerSecond < UInt64.size) ∧
      ∀ elapsed : Elapsed, Stored.parse? text = some elapsed →
        elapsed.totalNanos = secs * Elapsed.nanosPerSecond + nanos
  /-- Nothing else is parsed as an elapsed time. -/
  only : ∀ text (elapsed : Elapsed), Stored.parse? text = some elapsed →
    ∃ secsText nanosText secs nanos, ElapsedForm secsText nanosText text ∧
      parseBounded? UInt64.size secsText = some secs ∧
      parseBounded? UInt32.size nanosText = some nanos
  /-- Every number below a bound has a text. -/
  written : ∀ bound number, number < bound →
    parseBounded? bound (toString number) = some number
  /-- An object with any other key is refused. -/
  strange : ∀ members text, ObjectText members text →
    (∃ member ∈ members, member.key ≠ some "secs" ∧ member.key ≠ some "nanos") →
      (Stored.parse? text : Option Elapsed) = none
  /-- An object that lacks a part, or repeats one, is refused. -/
  once : ∀ members text, ObjectText members text →
    (∃ name ∈ ["secs", "nanos"],
      (members.filter fun member => member.key = some name).length ≠ 1) →
      (Stored.parse? text : Option Elapsed) = none
  /-- An array that is shorter or longer is refused. -/
  whole : ∀ items text, ArrayText items text → items.length ≠ 2 →
    (Stored.parse? text : Option Elapsed) = none

namespace Elapsed

/-- Parts make an elapsed time up exactly if their seconds fit into 64 bits. -/
theorem exists_ofParts?_iff {secs nanos : Nat} :
    (∃ elapsed, ofParts? secs nanos = some elapsed) ↔
      secs + nanos / nanosPerSecond < UInt64.size := by
  have seconds : (secs * nanosPerSecond + nanos) / nanosPerSecond =
      secs + nanos / nanosPerSecond := by
    rw [Nat.add_comm, Nat.add_mul_div_right _ _ (by decide), Nat.add_comm]
  rw [ofParts?, ofNanos?, seconds]
  split
  · rename_i fits
    exact iff_of_true ⟨_, rfl⟩ fits
  · rename_i fits
    exact iff_of_false (by simp) fits

/-- An elapsed time that is made up of parts is as long as both of them. -/
theorem totalNanos_of_ofParts? {secs nanos : Nat} {elapsed : Elapsed}
    (h : ofParts? secs nanos = some elapsed) :
    elapsed.totalNanos = secs * nanosPerSecond + nanos := by
  rw [ofParts?, ofNanos?] at h
  split at h
  · cases h
    exact Nat.div_add_mod' _ _
  · cases h

end Elapsed

namespace Stored

/-- How an elapsed time is read. -/
def readElapsed : List Value → Option Elapsed
  | [secs, nanos] => do
    Elapsed.ofParts? (← secs.bounded? UInt64.size) (← nanos.bounded? UInt32.size)
  | _ => none

/-- An elapsed time is restored from fields that admit no others. -/
theorem restore?_elapsed (whole : Value) :
    restore? whole = (whole.exactFields? Elapsed.fieldNames).bind readElapsed :=
  rfl

/-- A text is parsed as the number that the value is read as that it spells. -/
theorem parseBounded?_of_spells {value : Value} {text : String} (h : value.Spells text)
    (bound : Nat) : parseBounded? bound text = value.bounded? bound := by
  rw [parseBounded?, Value.parse?_eq_some_iff.mpr h, Option.bind_some]

/-- **An elapsed time is parsed from its parts.** -/
theorem parse?_of_elapsedForm {secs nanos text : String} (h : ElapsedForm secs nanos text) :
    parse? text = (parseBounded? UInt64.size secs).bind fun secs =>
      (parseBounded? UInt32.size nanos).bind fun nanos => Elapsed.ofParts? secs nanos := by
  have parts {first second whole : Value} (h : first.Spells secs) (h' : second.Spells nanos)
      (spelled : whole.Spells text)
      (read : whole.exactFields? Elapsed.fieldNames = some [first, second]) :
      parse? text = (parseBounded? UInt64.size secs).bind fun secs =>
        (parseBounded? UInt32.size nanos).bind fun nanos => Elapsed.ofParts? secs nanos := by
    rw [parse?_of_spells spelled, restore?_elapsed, read, parseBounded?_of_spells h,
      parseBounded?_of_spells h']
    rfl
  cases h with
  | ordered spelled =>
    obtain ⟨members, matched, object⟩ := spelled.exists_members
    obtain ⟨⟨_, first⟩, ⟨_, second⟩, rfl, ⟨rfl, h⟩, rfl, h'⟩ := Value.eq_pair_of_forall₂ matched
    exact parts h h' object (by simp [Value.exactFields?, Value.member?, Elapsed.fieldNames])
  | reversed spelled =>
    obtain ⟨members, matched, object⟩ := spelled.exists_members
    obtain ⟨⟨_, second⟩, ⟨_, first⟩, rfl, ⟨rfl, h'⟩, rfl, h⟩ := Value.eq_pair_of_forall₂ matched
    exact parts h h' object (by simp [Value.exactFields?, Value.member?, Elapsed.fieldNames])
  | pair spelled =>
    obtain ⟨items, matched, array⟩ := spelled.exists_items
    obtain ⟨first, second, rfl, h, h'⟩ := Value.eq_pair_of_forall₂ matched
    exact parts h h' array rfl

/-- An object of which all members have one of two keys, and one member each, has both of them in
some order. -/
theorem eq_or_eq_of_filter {texts : List MemberText} {one two : String} (apart : one ≠ two)
    {first second : MemberText} (keys : ∀ text ∈ texts, text.key = some one ∨ text.key = some two)
    (firsts : (texts.filter fun text => text.key = some one) = [first])
    (seconds : (texts.filter fun text => text.key = some two) = [second]) :
    texts = [first, second] ∨ texts = [second, first] := by
  cases texts with
  | nil => cases firsts
  | cons text rest =>
    obtain ⟨key, keys⟩ := List.forall_mem_cons.mp keys
    -- The rest has no member with the key of the first one, so it is what has the other key.
    have others {name other : String} (none : (rest.filter fun text => text.key = some name) = [])
        (keys : ∀ text ∈ rest, text.key = some name ∨ text.key = some other) :
        (rest.filter fun text => text.key = some other) = rest := by
      refine List.filter_eq_self.mpr fun text mem => decide_eq_true ?_
      refine (keys text mem).resolve_left fun same => ?_
      exact absurd (decide_eq_true same) (List.filter_eq_nil_iff.mp none text mem)
    rcases key with key | key
    · have other : ¬ text.key = some two := fun same =>
        apart (Option.some.inj (key.symm.trans same))
      rw [List.filter_cons_of_pos (by simpa using key)] at firsts
      obtain ⟨rfl, none⟩ := List.cons.inj firsts
      rw [List.filter_cons_of_neg (by simpa using other), others none keys] at seconds
      exact .inl (congrArg _ seconds)
    · have other : ¬ text.key = some one := fun same =>
        apart (Option.some.inj (same.symm.trans key))
      rw [List.filter_cons_of_pos (by simpa using key)] at seconds
      obtain ⟨rfl, none⟩ := List.cons.inj seconds
      rw [List.filter_cons_of_neg (by simpa using other),
        others none fun text mem => (keys text mem).symm] at firsts
      exact .inr (congrArg _ firsts)

/-- What is read as an elapsed time has a number in each part. -/
theorem exists_of_readElapsed {values : List Value} {elapsed : Elapsed}
    (h : readElapsed values = some elapsed) : ∃ first second secs nanos,
      values = [first, second] ∧ first.bounded? UInt64.size = some secs ∧
        second.bounded? UInt32.size = some nanos := by
  match values with
  | [first, second] =>
    obtain ⟨secs, read, h⟩ := Option.bind_eq_some_iff.mp h
    obtain ⟨nanos, read', h⟩ := Option.bind_eq_some_iff.mp h
    exact ⟨first, second, secs, nanos, rfl, read, read'⟩

/-- An object that is parsed as an elapsed time has its two parts and nothing else. -/
theorem parts_of_objectText {members : List MemberText} {text : String} {elapsed : Elapsed}
    (object : ObjectText members text) (h : parse? text = some elapsed) :
    (∀ member ∈ members, ∃ name ∈ Elapsed.fieldNames, member.key = some name) ∧
    ∃ secsText nanosText secs nanos,
      (members.filter fun member => member.key = some "secs") = [⟨some "secs", secsText⟩] ∧
      (members.filter fun member => member.key = some "nanos") = [⟨some "nanos", nanosText⟩] ∧
      parseBounded? UInt64.size secsText = some secs ∧
      parseBounded? UInt32.size nanosText = some nanos := by
  obtain ⟨values, matched, spelled⟩ := object.exists_members
  rw [parse?_of_spells spelled, restore?_elapsed] at h
  rcases Value.exactFields?_object matched Elapsed.fieldNames with
    ⟨keys, looked⟩ | ⟨-, refused⟩
  · rw [looked] at h
    obtain ⟨parts, looked, h⟩ := Option.bind_eq_some_iff.mp h
    obtain ⟨first, second, secs, nanos, rfl, read, read'⟩ := exists_of_readElapsed h
    obtain ⟨found, once, spelled⟩ := (Value.mapM_member?_eq_some_iff matched).mp looked
    match found, once, spelled with
    | [secsText, nanosText], .cons one (.cons two .nil), .cons h (.cons h' .nil) =>
      exact ⟨keys, secsText, nanosText, secs, nanos, one, two,
        (parseBounded?_of_spells h _).trans read, (parseBounded?_of_spells h' _).trans read'⟩
  · rw [refused] at h
    cases h

/-- What is parsed as an elapsed time has one of its forms. -/
theorem exists_elapsedForm {text : String} {elapsed : Elapsed}
    (h : parse? text = some elapsed) :
    ∃ secsText nanosText secs nanos, ElapsedForm secsText nanosText text ∧
      parseBounded? UInt64.size secsText = some secs ∧
      parseBounded? UInt32.size nanosText = some nanos := by
  obtain ⟨whole, parsed, same⟩ := Option.bind_eq_some_iff.mp h
  have spelled := Value.parse?_eq_some_iff.mp parsed
  rw [restore?_elapsed] at same
  obtain ⟨values, looked, made⟩ := Option.bind_eq_some_iff.mp same
  cases whole with
  | array items =>
    obtain ⟨first, second, secs, nanos, rfl, read, read'⟩ := exists_of_readElapsed made
    obtain ⟨texts, matched, array⟩ := Value.spells_array_iff.mp spelled
    have same : items = [first, second] := by
      rw [Value.exactFields?] at looked
      split at looked
      · exact Option.some.inj looked
      · cases looked
    subst same
    obtain ⟨secsText, nanosText, rfl, h, h'⟩ := Value.eq_pair_of_forall₂ matched.flip
    exact ⟨secsText, nanosText, secs, nanos, .pair array,
      (parseBounded?_of_spells h _).trans read, (parseBounded?_of_spells h' _).trans read'⟩
  | object members =>
    obtain ⟨texts, -, object⟩ := Value.spells_object_iff.mp spelled
    obtain ⟨keys, secsText, nanosText, secs, nanos, one, two, read⟩ := parts_of_objectText object h
    refine ⟨secsText, nanosText, secs, nanos, ?_, read⟩
    have keys : ∀ text ∈ texts, text.key = some "secs" ∨ text.key = some "nanos" :=
      fun text mem => by simpa [Elapsed.fieldNames] using keys text mem
    rcases eq_or_eq_of_filter (by decide) keys one two with rfl | rfl
    · exact .ordered object
    · exact .reversed object
  | _ => cases looked

/-- A number is parsed from its digits. -/
theorem parseBounded?_toString {bound number : Nat} (fits : number < bound) :
    parseBounded? bound (toString number) = some number := by
  have written : toString number = (Value.ofNat number).render := by
    rw [Value.render, Value.ofNat, Value.tokens, Token.render, List.flatMap_singleton, Token.chars]
    rfl
  rw [parseBounded?, written, Value.parse?_render (Value.isSpelled_ofNat number),
    Option.bind_some, Value.bounded?, Value.nat?_ofNat]
  simp [fits]

/-- **The forms of an elapsed time.** -/
theorem elapsedForms : ElapsedForms where
  fits secsText nanosText text secs nanos form first second := by
    rw [parse?_of_elapsedForm form, first, second, Option.bind_some, Option.bind_some]
    exact ⟨Elapsed.exists_ofParts?_iff, fun elapsed => Elapsed.totalNanos_of_ofParts?⟩
  only text elapsed h := exists_elapsedForm h
  written bound number fits := parseBounded?_toString fits
  strange members text object := by
    rintro ⟨member, mem, strange⟩
    refine Option.eq_none_iff_forall_ne_some.mpr fun elapsed parsed => ?_
    obtain ⟨keys, -⟩ := parts_of_objectText object parsed
    obtain ⟨name, declared, same⟩ := keys member mem
    rcases List.mem_pair.mp declared with rfl | rfl
    · exact strange.1 same
    · exact strange.2 same
  once members text object := by
    rintro ⟨name, declared, many⟩
    refine Option.eq_none_iff_forall_ne_some.mpr fun elapsed parsed => many ?_
    obtain ⟨-, secsText, nanosText, secs, nanos, one, two, -⟩ := parts_of_objectText object parsed
    rcases List.mem_pair.mp declared with rfl | rfl
    · exact congrArg List.length one
    · exact congrArg List.length two
  whole items text array other := by
    obtain ⟨values, matched, spelled⟩ := array.exists_items
    have refused : (Value.array values).exactFields? Elapsed.fieldNames = none :=
      if_neg fun same => other (matched.length_eq.symm.trans same)
    rw [parse?_of_spells spelled, restore?_elapsed, refused, Option.bind_none]

/-! ## The data model -/

/-- The accepted forms of the types of the data model. -/
structure StoredForms : Prop where
  /-- The forms of a formula. -/
  formula : RecordForms [field "name" Formula.name, field "extra_args" Formula.extraArgs]
  /-- The forms of an update. -/
  pathUpdate : RecordForms [directoryField]
  /-- The forms of the record of a step. -/
  stepRecord : RecordForms [field "name" StepRecord.name, field "elapsed" StepRecord.elapsed]
  /-- The forms of a report. -/
  report : RecordForms [field "steps" Report.steps, field "path_update" Report.pathUpdate]
  /-- The forms of a command line. -/
  commandLine : RecordForms [field "program" CommandLine.program, field "args" CommandLine.args]
  /-- The forms of a list, as the fields of these are. -/
  list : ∀ (α : Type) [Stored α] (values : List α) text, parse? text = some values ↔
    ∃ items, ArrayText items text ∧
      List.Forall₂ (fun value item => parse? item = some value) values items
  /-- The forms of an elapsed time. -/
  elapsed : ElapsedForms

/-- **The accepted forms of the data model.** -/
theorem forms_dataModel : StoredForms where
  formula := recordForms_formula
  pathUpdate := recordForms_pathUpdate
  stepRecord := recordForms_stepRecord
  report := recordForms_report
  commandLine := recordForms_commandLine
  list _ _ _ _ := parse?_list_iff
  elapsed := elapsedForms

/-- A key with an unpaired surrogate is spelled as any string is and differs from every declared
name, yet an object with such a key is refused. -/
theorem unpaired_key_refused :
    let text := "\x7b\"name\":\"a\",\"extra_args\":[],\"\\udead\":0\x7d"
    let members := [⟨some "name", "\"a\""⟩, ⟨some "extra_args", "[]"⟩, ⟨none, "0"⟩]
    ObjectText members text ∧
      (∀ declared ∈ [field "name" Formula.name, field "extra_args" Formula.extraArgs],
        ∃ part, declared.members members = [⟨some declared.name, part⟩] ∧
          declared.Parses ⟨"a", []⟩ part) ∧
      (parse? text : Option Formula) = none := by
  have json (part : String) (h : (Value.parse? part).isSome) : IsJson part :=
    (Option.isSome_iff_exists.mp h).imp fun _ => Value.parse?_eq_some_iff.mp
  have member {key : Option String} {name : List Char} {part : String}
      (named : Token.Spells (.text key) name) (h : (Value.parse? part).isSome) :
      MemberText.Spells ⟨key, part⟩ (name ++ ':' :: part.toList) :=
    ⟨[], name, [], rfl, List.forall_mem_nil _, named, List.forall_mem_nil _, json part h⟩
  have written (name : String) : Token.Spells (.text name) (Token.chars (.text name)) :=
    Token.spells_chars nofun
  have unpaired : Token.Spells (.text none) "\"\\udead\"".toList := by
    have unit : hexNumber? 0 ['d', 'e', 'a', 'd'] = some 0xDEAD := by decide
    exact ⟨[.unit 0xDEAD], _, .cons (.numbered rfl unit) .nil, by decide, by decide⟩
  intro text members
  have name : (parse? "\"a\"" : Option String) = some "a" := by decide +kernel
  have extraArgs : (parse? "[]" : Option (List String)) = some [] := by decide +kernel
  have spelled : List.Forall₂ MemberText.Spells members _ :=
    .cons (member (written "name") (by decide +kernel))
      (.cons (member (written "extra_args") (by decide +kernel))
        (.cons (member unpaired (by decide +kernel)) .nil))
  have composed : ObjectText members text :=
    ⟨[], _, [], [], by decide +kernel, spelled, List.forall_mem_nil _, List.forall_mem_nil _,
      List.forall_mem_nil _⟩
  refine ⟨composed, ?_, by decide +kernel⟩
  rw [List.forall_mem_cons, List.forall_mem_singleton]
  exact ⟨⟨_, rfl, name⟩, ⟨_, rfl, extraArgs⟩⟩

end Stored

end HostProvision
