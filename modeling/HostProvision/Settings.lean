import HostProvision.Procedure
import HostProvision.Text.Blank

/-! # Settings

Three variables decide the settings: the root of the Homebrew installation, which has to be an
absolute path, and the two executables that are run. A variable that is blank counts as unset, and
any other value is taken as it is. -/

namespace HostProvision

/-- A source of variables. -/
abbrev Variables : Type :=
  String → Option String

/-- What the program needs to know about the Homebrew installation. -/
@[ext] structure Settings where
  /-- The root directory of the installation. -/
  root : String
  /-- The executable that manages formulas. -/
  brew : String
  /-- The executable that installs Python packages. -/
  pip : String
  deriving DecidableEq, Repr

namespace Settings

/-- The variable that holds the installation root. -/
def rootVariable : String := "HOMEBREW_PREFIX"

/-- The variable that holds the formula manager. -/
def brewVariable : String := "BREWUP_BREW"

/-- The variable that holds the Python package installer. -/
def pipVariable : String := "BREWUP_PIP"

/-- The installation root that is used when none is set. -/
def defaultRoot : String := "/usr/local"

/-- The formula manager that is used when none is set. -/
def defaultBrew : String := "brew"

/-- The Python package installer that is used when none is set. -/
def defaultPip : String := "pip3"

/-- The value of a variable, unless it is unset or blank. -/
def value? (known : Variables) (name : String) : Option String :=
  (known name).filter fun value => !Text.isBlankText value

/-- The settings that variables ask for, whether or not they can be used. -/
def asked (known : Variables) : Settings where
  root := (value? known rootVariable).getD defaultRoot
  brew := (value? known brewVariable).getD defaultBrew
  pip := (value? known pipVariable).getD defaultPip

/-- Whether settings can be used: the installation root is an absolute path. -/
def isUsable (settings : Settings) : Bool :=
  settings.root.toList.head? = some '/'

/-- The failure of settings whose root is no absolute path. -/
def relativeRoot (root : String) : Failure :=
  .settings ("HOMEBREW_PREFIX must be an absolute path, got '" ++ root ++ "'")

/-- The settings that variables give. -/
def ofVariables (known : Variables) : Except Failure Settings :=
  let settings := asked known
  if settings.isUsable then .ok settings else .error (relativeRoot settings.root)

/-- What is told while settings are read. -/
def readingEvents (known : Variables) : List Event :=
  let settings := asked known
  (if (value? known rootVariable).isNone then [.defaultRoot defaultRoot] else []) ++
    if settings.isUsable then
      [.effectiveRoot settings.root, .executables settings.brew settings.pip]
    else []

/-- Reads the settings from variables. -/
def read (known : Variables) : Step Settings := do
  (readingEvents known).forM Step.log
  Step.ofExcept (ofVariables known)

/-- Reads the settings from the environment, where a value that is no text counts as unset. -/
def load (environment : String → Option Bytes) : Step Settings := do
  Step.log .loadingSettings
  read fun name => (environment name).bind Utf8.decode?

/-- The directory of the installed programs. -/
def binDirectory (settings : Settings) : Bytes :=
  Path.join (Utf8.encode settings.root) (Utf8.encode "bin")

/-- Sources that agree on the three variables, blank ones counted as unset, ask for the same
settings. -/
theorem asked_congr {first second : Variables}
    (root : value? first rootVariable = value? second rootVariable)
    (brew : value? first brewVariable = value? second brewVariable)
    (pip : value? first pipVariable = value? second pipVariable) :
    asked first = asked second := by
  simp [asked, root, brew, pip]

end Settings

end HostProvision
