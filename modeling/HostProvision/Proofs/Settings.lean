import HostProvision.Proofs.Cli.Course
import HostProvision.Proofs.Text.LineFeeds
import HostProvision.Proofs.Text.Separators
import HostProvision.Script

/-! # Settings and the variables they come from

Three variables decide the settings, and nothing else about a source of variables does.

* **A variable sets a value**, `Settings.Sets`, if it has that value and the value is not blank.
  What a setting comes to, `Settings.Chosen`, is the value that its variable sets, and otherwise a
  default.
* **The directory of the installed programs**, `Settings.components_binDirectory` and
  `Settings.binDirectory_eq`: it is one component below the root.
* **Three variables decide the settings**, `Settings.ofVariables_decided`: when they can be used,
  what they are, and that other variables and blank values do not matter. -/

namespace HostProvision

open Utf8

/-! ## Paths one component below another -/

namespace Path

/-- A path is absolute if it begins with a slash. -/
theorem isAbsolute_iff {path : Bytes} : isAbsolute path = true ↔ ∃ tail, path = slash :: tail := by
  rw [isAbsolute, decide_eq_true_eq, List.head?_eq_some_iff]

/-- The components of an absolute path are the root and those behind it. -/
theorem components_slash_cons (tail : Bytes) :
    components (slash :: tail) = .root :: (tail.splitOn slash).filterMap component? := by
  have pieces : (slash :: tail).splitOn slash = [] :: tail.splitOn slash :=
    splitOn_append_cons_self [] tail
  have some : (tail.splitOn slash).isEmpty = false := by simp [List.splitOn_ne_nil]
  rw [components, pieces]
  simp [some, firstComponent?]

/-- **One component below a directory.** A name adds one component to those of an absolute
directory, whether or not that ends in a slash. -/
theorem components_join {directory name : Bytes} (absolute : isAbsolute directory = true)
    (one : slash ∉ name) {component : Component} (named : component? name = some component) :
    components (join directory name) = components directory ++ [component] := by
  have relative : isAbsolute name = false := by
    rw [isAbsolute, decide_eq_false_iff_not]
    exact fun first => one (List.mem_of_mem_head? first)
  have pieces : (name.splitOn slash).filterMap component? = [component] := by
    rw [List.splitOn_eq_singleton one]
    simp [named]
  obtain ⟨tail, rfl⟩ := isAbsolute_iff.mp absolute
  rw [join, relative, if_neg Bool.false_ne_true]
  split
  · next ended =>
    -- The slash at the end is the one before the name, and it may be the one at the front.
    have last : (slash :: tail).getLast? = some slash := ended.resolve_left (List.cons_ne_nil _ _)
    rcases List.eq_nil_or_concat' tail with rfl | ⟨before, octet, rfl⟩
    · rw [List.singleton_append, components_slash_cons, components_slash_cons, pieces]
      rfl
    · obtain rfl : octet = slash := by simpa [List.getLast?_cons] using last
      rw [List.cons_append, components_slash_cons, components_slash_cons, List.append_assoc,
        List.singleton_append, splitOn_append_cons_self, splitOn_append_cons_self, List.filterMap_append,
        List.filterMap_append, pieces]
      simp [component?]
  · rw [List.cons_append, components_slash_cons, components_slash_cons, splitOn_append_cons_self,
      List.filterMap_append, pieces]
    rfl

/-- What is below an absolute directory is absolute. -/
theorem isAbsolute_join {directory : Bytes} (absolute : isAbsolute directory = true)
    (path : Bytes) : isAbsolute (join directory path) = true := by
  obtain ⟨tail, rfl⟩ := isAbsolute_iff.mp absolute
  rw [join]
  split
  · assumption
  · split <;> rfl

end Path

/-! ## Texts that begin or end with a slash -/

namespace Utf8

/-- An octet below `0x80` behind some octets of a text is a character of it. -/
theorem toList_of_encode_eq {text : String} {before after : Bytes} {octet : UInt8}
    (ascii : octet < 0x80) (same : encode text = before ++ octet :: after) :
    text.toList = (lossy before).toList ++ Char.ofNat octet.toNat :: (lossy after).toList := by
  have shown := congrArg (fun octets => (lossy octets).toList) same
  simp only [lossy_encode] at shown
  rw [shown, lossy, scan_append_ascii before after ascii]
  simp [lossy, Piece.shown]

/-- A text ends with a slash if its octets do. -/
theorem getLast?_encode_eq_slash_iff {text : String} :
    (encode text).getLast? = some Path.slash ↔ text.toList.getLast? = some '/' := by
  constructor
  · intro last
    obtain ⟨before, same⟩ := List.getLast?_eq_some_iff.mp last
    rw [toList_of_encode_eq (by decide) same, lossy_nil, String.toList_empty,
      List.getLast?_append_of_ne_nil _ (List.cons_ne_nil _ _)]
    rfl
  · intro last
    obtain ⟨before, same⟩ := List.getLast?_eq_some_iff.mp last
    have slash : String.utf8EncodeChar '/' = [Path.slash] := by decide
    rw [encode, same, List.flatMap_append, List.flatMap_singleton, slash, List.getLast?_concat]

end Utf8

namespace Settings

/-! ## Values of variables -/

/-- A variable sets a value if it has that value and some character of it is not blank. -/
def Sets (known : Variables) (name value : String) : Prop :=
  known name = some value ∧ ∃ c ∈ value.toList, Text.isBlank c = false

/-- What a setting comes to: the value that its variable sets, or else the default. -/
def Chosen (known : Variables) (name fallback value : String) : Prop :=
  Sets known name value ∨ (∀ other, ¬Sets known name other) ∧ value = fallback

/-- The value that is read from a variable is the one that it sets. -/
theorem value?_eq_some_iff {known : Variables} {name value : String} :
    value? known name = some value ↔ Sets known name value := by
  simp [value?, Sets, Option.filter_eq_some_iff, Text.isBlankText]

/-- A setting with a default is what it comes to. -/
theorem getD_value?_eq_iff {known : Variables} {name fallback value : String} :
    (value? known name).getD fallback = value ↔ Chosen known name fallback value := by
  simp only [Chosen, ← value?_eq_some_iff]
  cases value? known name <;> simp [eq_comm]

/-! ## The directory of the installed programs -/

/-- Settings that can be used have an absolute root. -/
theorem isAbsolute_encode_root {settings : Settings}
    (usable : settings.root.toList.head? = some '/') :
    Path.isAbsolute (encode settings.root) = true := by
  obtain ⟨rest, same⟩ := List.head?_eq_some_iff.mp usable
  rw [encode, same]
  rfl

/-- The directory of the installed programs is the root, a slash unless the root ends with one, and
its name. -/
theorem binDirectory_eq {settings : Settings} (usable : settings.root.toList.head? = some '/') :
    settings.binDirectory = encode (settings.root ++
      (if settings.root.toList.getLast? = some '/' then "" else "/") ++ "bin") := by
  have solid : encode settings.root ≠ [] := by
    intro empty
    have absolute := isAbsolute_encode_root usable
    rw [empty] at absolute
    cases absolute
  have relative : Path.isAbsolute (encode "bin") = false := by decide
  simp only [binDirectory, Path.join, relative, if_neg Bool.false_ne_true, solid, false_or,
    getLast?_encode_eq_slash_iff]
  split
  · rw [encode_append, encode_append, encode_empty, List.append_nil]
  · rw [encode_append, encode_append, List.append_assoc]
    rfl

/-- **The directory of the installed programs is one component below the root.** -/
theorem components_binDirectory {settings : Settings}
    (usable : settings.root.toList.head? = some '/') :
    Path.components settings.binDirectory =
      Path.components (encode settings.root) ++ [.name (encode "bin")] :=
  Path.components_join (isAbsolute_encode_root usable) (by decide) (by decide)

/-! ## What decides the settings -/

/-- The settings that are asked for are what each variable comes to. -/
theorem asked_eq_iff {known : Variables} {settings : Settings} :
    asked known = settings ↔ Chosen known "HOMEBREW_PREFIX" "/usr/local" settings.root ∧
      Chosen known "BREWUP_BREW" "brew" settings.brew ∧
      Chosen known "BREWUP_PIP" "pip3" settings.pip := by
  simp only [← getD_value?_eq_iff, Settings.ext_iff]
  rfl

/-- Settings are had exactly if those that are asked for can be used. -/
theorem ofVariables_eq_ok_iff {known : Variables} {settings : Settings} :
    ofVariables known = .ok settings ↔
      asked known = settings ∧ settings.root.toList.head? = some '/' := by
  rw [ofVariables, isUsable]
  split
  · next usable =>
    rw [Except.ok.injEq]
    exact ⟨fun same => ⟨same, same ▸ of_decide_eq_true usable⟩, And.left⟩
  · next unusable =>
    simp only [reduceCtorEq, false_iff, not_and]
    rintro rfl usable
    exact unusable (decide_eq_true usable)

/-- The settings are refused exactly for a root that is set and does not begin with a slash. -/
theorem ofVariables_eq_error_iff {known : Variables} {failure : Failure} :
    ofVariables known = .error failure ↔ ∃ value, Sets known "HOMEBREW_PREFIX" value ∧
      value.toList.head? ≠ some '/' ∧ failure =
        .settings ("HOMEBREW_PREFIX must be an absolute path, got '" ++ value ++ "'") := by
  rw [ofVariables, isUsable]
  cases root : value? known rootVariable with
  | none =>
    -- The default root begins with a slash.
    have asks : (asked known).root = "/usr/local" := by rw [asked, root]; rfl
    have begins : "/usr/local".toList.head? = some '/' := by decide
    rw [asks, if_pos (decide_eq_true begins)]
    simp only [reduceCtorEq, false_iff, not_exists, not_and]
    intro value sets
    rw [← value?_eq_some_iff] at sets
    cases root.symm.trans sets
  | some value =>
    have asks : (asked known).root = value := by rw [asked, root]; rfl
    have sets : ∀ other, Sets known "HOMEBREW_PREFIX" other ↔ other = value := by
      intro other
      have known : value? known "HOMEBREW_PREFIX" = some value := root
      rw [← value?_eq_some_iff, known, Option.some_inj, eq_comm]
    rw [asks]
    simp only [sets, exists_eq_left]
    split
    · next usable => simp [of_decide_eq_true usable]
    · next unusable =>
      rw [Except.error.injEq, eq_comm]
      exact (and_iff_right (mt decide_eq_true unusable)).symm

/-- Settings are had if the root is unset, blank or absolute, and otherwise not. -/
theorem exists_ofVariables_iff {known : Variables} :
    (∃ settings, ofVariables known = .ok settings) ↔
      known "HOMEBREW_PREFIX" = none ∨ ∃ value, known "HOMEBREW_PREFIX" = some value ∧
        ((∀ c ∈ value.toList, Text.isBlank c = true) ∨ value.toList.head? = some '/') := by
  cases result : ofVariables known with
  | ok settings =>
    refine iff_of_true ⟨settings, rfl⟩ ?_
    obtain ⟨asks, usable⟩ := ofVariables_eq_ok_iff.mp result
    rcases (asked_eq_iff.mp asks).1 with sets | ⟨unset, -⟩
    · exact .inr ⟨settings.root, sets.1, .inr usable⟩
    · cases held : known "HOMEBREW_PREFIX" with
      | none => exact .inl rfl
      | some value =>
        have blank := fun solid => unset value ⟨held, solid⟩
        exact .inr ⟨value, rfl, .inl (by simpa using blank)⟩
  | error failure =>
    refine iff_of_false nofun ?_
    obtain ⟨value, ⟨held, c, mem, solid⟩, relative, -⟩ := ofVariables_eq_error_iff.mp result
    rintro (unset | ⟨other, has, blank | absolute⟩)
    · rw [held] at unset
      cases unset
    · obtain rfl := Option.some.inj (held.symm.trans has)
      rw [blank c mem] at solid
      cases solid
    · obtain rfl := Option.some.inj (held.symm.trans has)
      exact relative absolute

/-- What a setting comes to is not blank unless its default is. -/
theorem Chosen.exists_not_blank {known : Variables} {name fallback value : String}
    (chosen : Chosen known name fallback value)
    (solid : ∃ c ∈ fallback.toList, Text.isBlank c = false) :
    ∃ c ∈ value.toList, Text.isBlank c = false := by
  rcases chosen with sets | ⟨-, rfl⟩
  · exact sets.2
  · exact solid

/-- **Three variables decide the settings.** They are refused exactly if the root is set to
something that is not blank and does not begin with a slash. Otherwise each of them is what its own
variable sets, untrimmed, or its default; the executables are never blank, and the directory of the
installed programs is one component below the root. Sources whose three variables set the same
values give the same result, and the environment of a process is read as the source of its values
that are texts. -/
theorem ofVariables_decided (known : Variables) :
    ((∃ settings, ofVariables known = .ok settings) ↔
      known "HOMEBREW_PREFIX" = none ∨ ∃ value, known "HOMEBREW_PREFIX" = some value ∧
        ((∀ c ∈ value.toList, Text.isBlank c = true) ∨ value.toList.head? = some '/')) ∧
    (∀ failure, ofVariables known = .error failure → ∃ value,
      known "HOMEBREW_PREFIX" = some value ∧ failure =
        .settings ("HOMEBREW_PREFIX must be an absolute path, got '" ++ value ++ "'")) ∧
    (∀ settings, ofVariables known = .ok settings →
      (Chosen known "HOMEBREW_PREFIX" "/usr/local" settings.root ∧
        Chosen known "BREWUP_BREW" "brew" settings.brew ∧
        Chosen known "BREWUP_PIP" "pip3" settings.pip) ∧
      ((∃ c ∈ settings.brew.toList, Text.isBlank c = false) ∧
        ∃ c ∈ settings.pip.toList, Text.isBlank c = false) ∧
      Path.isAbsolute settings.binDirectory = true ∧
      Path.components settings.binDirectory =
        Path.components (encode settings.root) ++ [.name (encode "bin")] ∧
      settings.binDirectory = encode (settings.root ++
        (if settings.root.toList.getLast? = some '/' then "" else "/") ++ "bin")) ∧
    (∀ other : Variables,
      (∀ name ∈ ["HOMEBREW_PREFIX", "BREWUP_BREW", "BREWUP_PIP"], ∀ value,
        Sets other name value ↔ Sets known name value) →
      ofVariables other = ofVariables known) ∧
    ∀ (σ : Type) (world : World σ) (state : σ) (environment : String → Option Bytes),
      (∀ name value, known name = some value ↔ environment name = some (encode value)) →
      (world.run (load environment).run state).value = ofVariables known := by
  refine ⟨exists_ofVariables_iff, fun failure refused => ?_, fun settings had => ?_,
    fun other same => ?_, fun σ world state environment same => ?_⟩
  · obtain ⟨value, sets, -, rfl⟩ := ofVariables_eq_error_iff.mp refused
    exact ⟨value, sets.1, rfl⟩
  · obtain ⟨asks, usable⟩ := ofVariables_eq_ok_iff.mp had
    obtain ⟨root, brew, pip⟩ := asked_eq_iff.mp asks
    exact ⟨⟨root, brew, pip⟩,
      ⟨brew.exists_not_blank ⟨'b', by decide, by decide⟩,
        pip.exists_not_blank ⟨'p', by decide, by decide⟩⟩,
      Path.isAbsolute_join (isAbsolute_encode_root usable) _, components_binDirectory usable,
      binDirectory_eq usable⟩
  · have value (name : String) (mem : name ∈ ["HOMEBREW_PREFIX", "BREWUP_BREW", "BREWUP_PIP"]) :
        value? other name = value? known name := by
      refine Option.ext fun value => ?_
      rw [value?_eq_some_iff, value?_eq_some_iff, same name mem]
    have asks : asked other = asked known :=
      asked_congr (value _ (by decide)) (value _ (by decide)) (value _ (by decide))
    rw [ofVariables, ofVariables, asks]
  · have texts : known = Cli.Environment.variables environment := by
      funext name
      refine Option.ext fun value => ?_
      rw [same, Cli.Environment.variables, Option.bind_eq_some_iff]
      simp only [decode?_eq_some_iff, exists_eq_right]
    rw [run_load, World.run_telling, texts]

/-- A root that ends with a slash and has a blank inside, and an executable that is set to a blank;
beside it, a root that begins with a blank. -/
theorem ofVariables_decided_trailingSlash :
    let known : Variables := fun name =>
      if name = "HOMEBREW_PREFIX" then some "/opt/ brew/"
      else if name = "BREWUP_BREW" then some "\u2003" else none
    let other : Variables := fun name =>
      if name = "HOMEBREW_PREFIX" then some "/opt/ brew/"
      else if name = "PATH" then some "/bin" else none
    let relative : Variables := fun name =>
      if name = "HOMEBREW_PREFIX" then some " /opt" else none
    let settings : Settings := ⟨"/opt/ brew/", "brew", "pip3"⟩
    (ofVariables known = .ok settings ∧ settings.binDirectory = encode "/opt/ brew/bin") ∧
      ((∀ name ∈ ["HOMEBREW_PREFIX", "BREWUP_BREW", "BREWUP_PIP"], ∀ value,
        Sets other name value ↔ Sets known name value) ∧ ofVariables other = .ok settings) ∧
      (∃ failure, ofVariables relative = .error failure ∧ failure =
        .settings "HOMEBREW_PREFIX must be an absolute path, got ' /opt'") ∧
      (Script.world.run (load fun name => (known name).map encode).run ⟨[], []⟩).value =
        .ok settings := by
  intro known other relative settings
  obtain ⟨-, -, chosen, congr, loads⟩ := ofVariables_decided known
  have accepted : ofVariables known = .ok settings := by decide +kernel
  have alike : ∀ name ∈ ["HOMEBREW_PREFIX", "BREWUP_BREW", "BREWUP_PIP"],
      value? other name = value? known name := by decide +kernel
  have same : ∀ name ∈ ["HOMEBREW_PREFIX", "BREWUP_BREW", "BREWUP_PIP"], ∀ value,
      Sets other name value ↔ Sets known name value := by
    intro name mem value
    rw [← value?_eq_some_iff, alike name mem, value?_eq_some_iff]
  refine ⟨⟨accepted, ?_⟩, ⟨same, (congr other same).trans accepted⟩, ?_, ?_⟩
  · exact (chosen settings accepted).2.2.2.2.trans (by decide +kernel)
  · have refused : ofVariables relative =
        .error (.settings "HOMEBREW_PREFIX must be an absolute path, got ' /opt'") := by
      decide +kernel
    obtain ⟨value, held, told⟩ := (ofVariables_decided relative).2.1 _ refused
    obtain rfl := Option.some.inj held
    exact ⟨_, refused, told⟩
  · refine (loads Script Script.world ⟨[], []⟩ _ fun name value => ?_).trans accepted
    rw [Option.map_eq_some_iff]
    simp only [← decode?_eq_some_iff, decode?_encode, Option.some_inj, exists_eq_right]

end Settings

end HostProvision
