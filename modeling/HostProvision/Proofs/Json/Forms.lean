import HostProvision.Proofs.Json.Record

/-! # Texts of arrays and objects

Which texts spell an array of given items, or an object of given members, where items and values of
members are themselves given as texts.

* `ArrayText` and `ObjectText` compose such a text; insignificant whitespace may stand anywhere.
* **A text spells an array**, `Value.spells_array_iff`, exactly if it is composed of texts that spell
  the items, and it spells **an object**, `Value.spells_object_iff`, exactly if it is composed of
  members of which each has the key and a text that spells the value.
* `Value.member?_eq_some_iff` finds the only member with a key by its text. -/

namespace HostProvision

namespace Json

/-- A text is JSON if it spells a value. -/
def IsJson (text : String) : Prop :=
  ∃ value : Value, value.Spells text

/-- A member of the text of an object. -/
structure MemberText where
  /-- What its key stands for, none for a string with an unpaired surrogate. -/
  key : Option String
  /-- The text of its value, with any whitespace around it. -/
  value : String

/-- Which characters spell a member. -/
def MemberText.Spells (member : MemberText) (chars : List Char) : Prop :=
  ∃ before name after, chars = before ++ (name ++ (after ++ ':' :: member.value.toList)) ∧
    Blanks before ∧ Token.Spells (.text member.key) name ∧ Blanks after ∧ IsJson member.value

/-- The text of an array of some items, with commas between them. -/
def ArrayText (items : List String) (text : String) : Prop :=
  ∃ before inner after,
    text.toList =
      before ++ '[' :: ([','].intercalate (items.map String.toList) ++ (inner ++ ']' :: after)) ∧
    (∀ item ∈ items, IsJson item) ∧ Blanks before ∧ Blanks inner ∧ Blanks after

/-- The text of an object of some members, with commas between them. -/
def ObjectText (members : List MemberText) (text : String) : Prop :=
  ∃ before spelled inner after,
    text.toList = before ++ '\x7b' :: ([','].intercalate spelled ++ (inner ++ '\x7d' :: after)) ∧
    List.Forall₂ MemberText.Spells members spelled ∧ Blanks before ∧ Blanks inner ∧ Blanks after

/-! ## Parts with commas between them -/

/-- Parts with a separator between them, from the front. -/
theorem intercalate_cons_cons {α : Type} (separator : α) (first second : List α)
    (rest : List (List α)) : [separator].intercalate (first :: second :: rest) =
      first ++ separator :: [separator].intercalate (second :: rest) := by
  rw [List.intercalate_cons_cons, List.append_assoc, List.singleton_append]

/-- Whitespace at the end of a spelling does not matter. -/
theorem Spelling.append_blanks {tokens : List Token} {chars blanks : List Char}
    (h : Spelling tokens chars) (blank : Blanks blanks) : Spelling tokens (chars ++ blanks) :=
  List.append_nil tokens ▸ h.append (.nil blank)

/-- A token that has a single spelling comes first with whitespace before it. -/
theorem Spelling.cons_sole_iff {token : Token} {tokens : List Token} {chars : List Char}
    (sole : ∀ spelled, token.Spells spelled ↔ spelled = token.chars) :
    Spelling (token :: tokens) chars ↔ ∃ blanks rest, chars = blanks ++ (token.chars ++ rest) ∧
      Blanks blanks ∧ Spelling tokens rest := by
  constructor
  · intro h
    cases h with
    | cons blank first others =>
      obtain rfl := (sole _).mp first
      exact ⟨_, _, rfl, blank, others⟩
  · rintro ⟨blanks, rest, rfl, blank, others⟩
    exact .cons blank ((sole _).mpr rfl) others

/-- **Parts with commas between them** are spelled with commas between their spellings. -/
theorem spelling_intercalate_iff {parts : List (List Token)} {chars : List Char} :
    Spelling ([.comma].intercalate parts) chars ↔
      ∃ pieces inner, chars = [','].intercalate pieces ++ inner ∧
        List.Forall₂ Spelling parts pieces ∧ Blanks inner := by
  induction parts generalizing chars with
  | nil =>
    constructor
    · intro h
      cases h with
      | nil blank => exact ⟨[], chars, rfl, .nil, blank⟩
    · rintro ⟨pieces, inner, rfl, spelled, blank⟩
      cases spelled
      exact .nil blank
  | cons part rest ih =>
    cases rest with
    | nil =>
      rw [List.intercalate_singleton]
      constructor
      · intro h
        exact ⟨[chars], [], by simp, .cons h .nil, List.forall_mem_nil _⟩
      · rintro ⟨pieces, inner, rfl, spelled, blank⟩
        cases spelled with
        | cons first others =>
          cases others
          rw [List.intercalate_singleton]
          exact first.append_blanks blank
    | cons next rest =>
      rw [intercalate_cons_cons]
      constructor
      · intro h
        obtain ⟨before, after, rfl, first, h⟩ := Spelling.append_iff.mp h
        obtain ⟨blanks, after, rfl, blank, h⟩ := (Spelling.cons_sole_iff fun _ => .rfl).mp h
        obtain ⟨pieces, inner, rfl, spelled, blank'⟩ := ih.mp h
        cases spelled with
        | cons second others =>
          -- Whitespace before a comma is taken to the part that the comma ends.
          refine ⟨(before ++ blanks) :: _ :: _, inner, ?_,
            .cons (first.append_blanks blank) (.cons second others), blank'⟩
          rw [intercalate_cons_cons]
          simp [Token.chars]
      · rintro ⟨pieces, inner, rfl, spelled, blank⟩
        cases spelled with
        | cons first others =>
          cases others with
          | cons second others =>
            rw [intercalate_cons_cons, List.append_assoc]
            refine first.append ((Spelling.cons_sole_iff fun _ => .rfl).mpr
              ⟨[], _, rfl, List.forall_mem_nil _, ih.mpr ?_⟩)
            exact ⟨_, inner, rfl, .cons second others, blank⟩

namespace Value

/-- The tokens of items are those of each, with commas between them. -/
theorem itemTokens_eq_intercalate (items : List Value) :
    itemTokens items = [.comma].intercalate (items.map tokens) := by
  induction items with
  | nil => rfl
  | cons item rest ih =>
    cases rest with
    | nil => rw [itemTokens, List.map_singleton, List.intercalate_singleton]
    | cons next rest =>
      rw [itemTokens, ih, List.map_cons, List.map_cons, List.map_cons, intercalate_cons_cons]

/-- The tokens of a member. -/
def tokensOfMember (member : Option String × Value) : List Token :=
  .text member.1 :: .colon :: member.2.tokens

/-- The tokens of members are those of each, with commas between them. -/
theorem memberTokens_eq_intercalate (members : List (Option String × Value)) :
    memberTokens members = [.comma].intercalate (members.map tokensOfMember) := by
  induction members with
  | nil => rfl
  | cons member rest ih =>
    cases rest with
    | nil => rw [List.map_singleton, List.intercalate_singleton]; rfl
    | cons next rest =>
      rw [List.map_cons, List.map_cons, intercalate_cons_cons, ← List.map_cons, ← ih]
      rfl

/-! ## Arrays and objects -/

/-- What is enclosed in brackets, with commas between its parts, is spelled between brackets and with
commas between the spellings of the parts. -/
theorem spelling_enclosed_iff {opening closing : Token} {parts : List (List Token)}
    {chars : List Char} (opens : ∀ spelled, opening.Spells spelled ↔ spelled = opening.chars)
    (closes : ∀ spelled, closing.Spells spelled ↔ spelled = closing.chars) :
    Spelling (opening :: [.comma].intercalate parts ++ [closing]) chars ↔
      ∃ before pieces inner after,
        chars = before ++ (opening.chars ++ ([','].intercalate pieces ++
          (inner ++ (closing.chars ++ after)))) ∧
        List.Forall₂ Spelling parts pieces ∧ Blanks before ∧ Blanks inner ∧ Blanks after := by
  rw [List.cons_append, Spelling.cons_sole_iff opens]
  constructor
  · rintro ⟨before, rest, rfl, front, h⟩
    obtain ⟨spelled, rest, rfl, listed, last⟩ := Spelling.append_iff.mp h
    obtain ⟨pieces, inner, rfl, spelled, inside⟩ := spelling_intercalate_iff.mp listed
    obtain ⟨more, after, rfl, further, ended⟩ := (Spelling.cons_sole_iff closes).mp last
    cases ended with
    | nil back =>
      exact ⟨before, pieces, inner ++ more, after, by simp only [List.append_assoc], spelled,
        front, List.forall_mem_append.mpr ⟨inside, further⟩, back⟩
  · rintro ⟨before, pieces, inner, after, rfl, spelled, front, inside, back⟩
    refine ⟨before, _, rfl, front, Spelling.append_iff.mpr ⟨_, _, rfl, ?_, ?_⟩⟩
    · exact spelling_intercalate_iff.mpr ⟨pieces, [], (List.append_nil _).symm, spelled,
        List.forall_mem_nil _⟩
    · exact (Spelling.cons_sole_iff closes).mpr ⟨inner, after, rfl, inside, .nil back⟩

/-- What relates two lists through something between them relates both to a list of it. -/
theorem forall₂_exists_iff {α β γ : Type} {first : α → β → Prop} {second : β → γ → Prop}
    {before : List α} {after : List γ} :
    List.Forall₂ (fun a c => ∃ b, first a b ∧ second b c) before after ↔
      ∃ between, List.Forall₂ first before between ∧ List.Forall₂ second between after := by
  constructor
  · intro h
    induction h with
    | nil => exact ⟨[], .nil, .nil⟩
    | cons related _ ih =>
      obtain ⟨b, h, h'⟩ := related
      obtain ⟨between, hs, hs'⟩ := ih
      exact ⟨b :: between, .cons h hs, .cons h' hs'⟩
  · rintro ⟨between, hs, hs'⟩
    induction hs generalizing after with
    | nil =>
      cases hs'
      exact .nil
    | cons h _ ih =>
      cases hs' with
      | cons h' hs' => exact .cons ⟨_, h, h'⟩ (ih hs')

/-- There are items that some others are related to, one by one, exactly if there is one for each. -/
theorem exists_forall₂_iff {α β : Type} {related : α → β → Prop} {after : List β} :
    (∃ before, List.Forall₂ related before after) ↔ ∀ b ∈ after, ∃ a, related a b := by
  induction after with
  | nil => exact iff_of_true ⟨[], .nil⟩ (List.forall_mem_nil _)
  | cons b after ih =>
    rw [List.forall_mem_cons, ← ih]
    constructor
    · rintro ⟨before, h⟩
      cases h with
      | cons first others => exact ⟨⟨_, first⟩, _, others⟩
    · rintro ⟨⟨a, first⟩, before, others⟩
      exact ⟨a :: before, .cons first others⟩

/-- What is related to two items, one by one, is two items. -/
theorem eq_pair_of_forall₂ {α β : Type} {related : α → β → Prop} {before : List α} {one two : β}
    (h : List.Forall₂ related before [one, two]) :
    ∃ first second, before = [first, second] ∧ related first one ∧ related second two := by
  cases h with
  | cons first others =>
    cases others with
    | cons second none =>
      cases none
      exact ⟨_, _, rfl, first, second⟩

/-- **The text of an array** is composed of texts that spell its items. -/
theorem spells_array_iff {items : List Value} {text : String} :
    (Value.array items).Spells text ↔
      ∃ texts, List.Forall₂ Value.Spells items texts ∧ ArrayText texts text := by
  rw [Spells, tokens, itemTokens_eq_intercalate,
    spelling_enclosed_iff (fun _ => .rfl) (fun _ => .rfl)]
  simp only [List.forall₂_map_left_iff]
  constructor
  · rintro ⟨before, pieces, inner, after, same, h, blanks⟩
    have texts : (pieces.map String.ofList).map String.toList = pieces := by
      simp [List.map_map, Function.comp_def]
    have spelled : List.Forall₂ Value.Spells items (pieces.map String.ofList) := by
      rw [List.forall₂_map_right_iff]
      exact h.imp fun item piece spelled => by rwa [Spells, String.toList_ofList]
    refine ⟨pieces.map String.ofList, spelled, before, inner, after, ?_,
      exists_forall₂_iff.mp ⟨items, spelled⟩, blanks⟩
    rw [texts]
    exact same
  · rintro ⟨texts, spelled, before, inner, after, same, -, blanks⟩
    refine ⟨before, texts.map String.toList, inner, after, same, ?_, blanks⟩
    rw [List.forall₂_map_right_iff]
    exact spelled

/-- A member has the key of its text and is spelled by the rest of it. -/
def MatchedBy (member : Option String × Value) (text : MemberText) : Prop :=
  member.1 = text.key ∧ member.2.Spells text.value

/-- The tokens of a member are spelled by the spelling of its key and a text that spells its
value. -/
theorem spelling_tokensOfMember_iff {member : Option String × Value} {chars : List Char} :
    Spelling (tokensOfMember member) chars ↔
      ∃ text, MatchedBy member text ∧ text.Spells chars := by
  constructor
  · intro h
    cases h with
    | @cons before name rest _ _ front named h =>
      obtain ⟨after, rest, rfl, back, h⟩ := (Spelling.cons_sole_iff fun _ => .rfl).mp h
      have spelled : member.2.Spells (String.ofList rest) := by rwa [Spells, String.toList_ofList]
      refine ⟨⟨member.1, String.ofList rest⟩, ⟨rfl, spelled⟩, before, name, after, ?_, front,
        named, back, member.2, spelled⟩
      rw [String.toList_ofList]
      rfl
  · rintro ⟨⟨key, text⟩, ⟨rfl, spelled⟩, before, name, after, rfl, front, named, back, -⟩
    refine .cons front named ((Spelling.cons_sole_iff fun _ => .rfl).mpr ?_)
    exact ⟨after, text.toList, rfl, back, spelled⟩

/-- **The text of an object** is composed of members, each with its key and a text that spells its
value. -/
theorem spells_object_iff {members : List (Option String × Value)} {text : String} :
    (Value.object members).Spells text ↔
      ∃ texts, List.Forall₂ MatchedBy members texts ∧ ObjectText texts text := by
  rw [Spells, tokens, memberTokens_eq_intercalate,
    spelling_enclosed_iff (fun _ => .rfl) (fun _ => .rfl)]
  simp only [List.forall₂_map_left_iff, spelling_tokensOfMember_iff, forall₂_exists_iff]
  constructor
  · rintro ⟨before, pieces, inner, after, same, ⟨texts, matched, spelled⟩, blanks⟩
    exact ⟨texts, matched, before, pieces, inner, after, same, spelled, blanks⟩
  · rintro ⟨texts, matched, before, pieces, inner, after, same, spelled, blanks⟩
    exact ⟨before, pieces, inner, after, same, ⟨texts, matched, spelled⟩, blanks⟩

/-- A text spells one value at most. -/
theorem Spells.unique {first second : Value} {text : String} (h : first.Spells text)
    (h' : second.Spells text) : first = second :=
  Option.some.inj ((parse?_eq_some_iff.mpr h).symm.trans (parse?_eq_some_iff.mpr h'))

end Value

open Value

/-- The text of an array spells an array. -/
theorem ArrayText.exists_items {texts : List String} {text : String} (h : ArrayText texts text) :
    ∃ items, List.Forall₂ Value.Spells items texts ∧ (Value.array items).Spells text := by
  have json : ∀ item ∈ texts, IsJson item := by
    obtain ⟨_, _, _, -, json, -⟩ := h
    exact json
  obtain ⟨items, spelled⟩ := exists_forall₂_iff.mpr json
  exact ⟨items, spelled, spells_array_iff.mpr ⟨texts, spelled, h⟩⟩

/-- The text of an object spells an object. -/
theorem ObjectText.exists_members {texts : List MemberText} {text : String}
    (h : ObjectText texts text) :
    ∃ members, List.Forall₂ MatchedBy members texts ∧ (Value.object members).Spells text := by
  have json : ∀ member ∈ texts, ∃ parsed, MatchedBy parsed member := by
    obtain ⟨_, pieces, _, _, -, spelled, -⟩ := h
    intro member mem
    obtain ⟨_, _, _, _, -, -, -, -, value, spelled⟩ :=
      exists_forall₂_iff.mp ⟨pieces, spelled.flip⟩ member mem
    exact ⟨(member.key, value), rfl, spelled⟩
  obtain ⟨members, matched⟩ := exists_forall₂_iff.mpr json
  exact ⟨members, matched, spells_object_iff.mpr ⟨texts, matched, h⟩⟩

/-! ## Declared fields -/

namespace Value

variable {members : List (Option String × Value)} {texts : List MemberText}

/-- Members with a key are those whose texts have it. -/
theorem forall₂_filter_key (matched : List.Forall₂ MatchedBy members texts) (name : String) :
    List.Forall₂ MatchedBy (members.filter fun member => member.1 = some name)
      (texts.filter fun text => text.key = some name) := by
  refine List.rel_filter (fun member text same => ?_) matched
  simp only [decide_eq_true_eq, same.1]

/-- **The only member with a key** is found by its text. -/
theorem member?_eq_some_iff (matched : List.Forall₂ MatchedBy members texts) {name : String}
    {value : Value} : member? members name = some value ↔
      ∃ text, (texts.filter fun member => member.key = some name) = [⟨some name, text⟩] ∧
        value.Spells text := by
  have named := forall₂_filter_key matched name
  have keyed : ∀ text ∈ texts.filter fun text => text.key = some name, text.key = some name :=
    fun text mem => of_decide_eq_true (List.mem_filter.mp mem).2
  rw [member?]
  generalize (members.filter fun member => member.1 = some name) = found at named ⊢
  generalize (texts.filter fun text => text.key = some name) = foundTexts at named keyed ⊢
  cases named with
  | nil => simp
  | @cons member text _ _ same others =>
    cases others with
    | cons => simp
    | nil =>
      obtain ⟨key, spelling⟩ := text
      obtain ⟨first, rest⟩ := member
      obtain rfl : key = some name := keyed _ List.mem_cons_self
      constructor
      · rintro ⟨⟩
        exact ⟨spelling, rfl, same.2⟩
      · rintro ⟨_, ⟨⟩, spelled⟩
        exact congrArg some (same.2.unique spelled)

/-- The members that are looked up, each by its name, are found by their texts. -/
theorem mapM_member?_eq_some_iff (matched : List.Forall₂ MatchedBy members texts)
    {names : List String} {values : List Value} :
    names.mapM (member? members) = some values ↔ ∃ found,
      List.Forall₂ (fun name text =>
        (texts.filter fun member => member.key = some name) = [⟨some name, text⟩]) names found ∧
      List.Forall₂ Value.Spells values found := by
  rw [mapM_eq_some_iff]
  simp only [member?_eq_some_iff matched, forall₂_exists_iff]
  exact exists_congr fun found => and_congr_right fun _ => ⟨List.Forall₂.flip, List.Forall₂.flip⟩

/-- The keys of members are those of their texts. -/
theorem forall_key_iff (matched : List.Forall₂ MatchedBy members texts)
    (holds : Option String → Prop) :
    (∀ member ∈ members, holds member.1) ↔ ∀ text ∈ texts, holds text.key := by
  induction matched with
  | nil => exact iff_of_true (List.forall_mem_nil _) (List.forall_mem_nil _)
  | cons same _ ih => rw [List.forall_mem_cons, List.forall_mem_cons, ih, same.1]

/-- The fields of an object are looked up if all its keys are texts. -/
theorem fields?_object (matched : List.Forall₂ MatchedBy members texts) (names : List String) :
    (∀ text ∈ texts, text.key ≠ none) ∧
        (Value.object members).fields? names = names.mapM (member? members) ∨
      (∃ text ∈ texts, text.key = none) ∧ (Value.object members).fields? names = none := by
  have keys := forall_key_iff matched (· ≠ none)
  rw [fields?]
  split
  · rename_i all
    refine .inl ⟨keys.mp fun member mem => ?_, rfl⟩
    exact Option.isSome_iff_ne_none.mp (List.all_eq_true.mp all member mem)
  · rename_i some
    refine .inr ⟨?_, rfl⟩
    by_contra none
    refine some (List.all_eq_true.mpr fun member mem => Option.isSome_iff_ne_none.mpr ?_)
    exact keys.mpr (fun text mem same => none ⟨text, mem, same⟩) member mem

/-- The fields of an object that admits no others are looked up if all its keys are declared. -/
theorem exactFields?_object (matched : List.Forall₂ MatchedBy members texts)
    (names : List String) :
    (∀ text ∈ texts, ∃ name ∈ names, text.key = some name) ∧
        (Value.object members).exactFields? names = names.mapM (member? members) ∨
      (∃ text ∈ texts, ∀ name ∈ names, text.key ≠ some name) ∧
        (Value.object members).exactFields? names = none := by
  have keys := forall_key_iff matched fun key => ∃ name ∈ names, key = some name
  rw [exactFields?]
  split
  · rename_i all
    refine .inl ⟨keys.mp fun member mem => ?_, rfl⟩
    simpa using List.all_eq_true.mp all member mem
  · rename_i some
    refine .inr ⟨?_, rfl⟩
    by_contra none
    push Not at none
    refine some (List.all_eq_true.mpr fun member mem => ?_)
    simpa using keys.mpr none member mem

end Value

end Json

end HostProvision
