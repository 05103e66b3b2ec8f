import HostProvision.Failure
import HostProvision.Formula

/-! # Supported compilers

The compilers that a host can be provisioned with. A compiler is chosen by its exact spelling and is
provided by a formula, except that the default clang is already on the host. -/

namespace HostProvision

/-- A compiler that a host can be provisioned with. -/
inductive Compiler where
  /-- GCC 4.9. -/
  | gcc49
  /-- GCC 5. -/
  | gcc5
  /-- GCC 6. -/
  | gcc6
  /-- The clang that the host has by default. -/
  | clangDefault
  /-- Clang 3.7. -/
  | clang37
  /-- Clang 3.8. -/
  | clang38
  /-- Clang 3.9. -/
  | clang39
  /-- Clang 4.0. -/
  | clang40
  /-- Clang 5.0. -/
  | clang50
  deriving DecidableEq, Repr, Inhabited

namespace Compiler

/-- All supported compilers, in the order in which they are listed. -/
def all : List Compiler :=
  [gcc49, gcc5, gcc6, clangDefault, clang37, clang38, clang39, clang40, clang50]

/-- Every compiler is listed. -/
@[simp] theorem mem_all (compiler : Compiler) : compiler ∈ all := by
  cases compiler <;> decide

/-- The spelling by which a compiler is chosen. -/
def spelling : Compiler → String
  | gcc49 => "gcc-4.9"
  | gcc5 => "gcc-5"
  | gcc6 => "gcc-6"
  | clangDefault => "clang-default"
  | clang37 => "clang-3.7"
  | clang38 => "clang-3.8"
  | clang39 => "clang-3.9"
  | clang40 => "clang-4.0"
  | clang50 => "clang-5.0"

/-- The tag that stands for a compiler in stored data and diagnostics. -/
def tag : Compiler → String
  | gcc49 => "Gcc49"
  | gcc5 => "Gcc5"
  | gcc6 => "Gcc6"
  | clangDefault => "ClangDefault"
  | clang37 => "Clang37"
  | clang38 => "Clang38"
  | clang39 => "Clang39"
  | clang40 => "Clang40"
  | clang50 => "Clang50"

/-- The flags that make a versioned LLVM build its clang front end and C++ library. -/
def llvmFlags : List String :=
  ["--with-clang", "--with-libcxx"]

/-- The formula that provides a compiler, if it has to be installed at all. -/
def formula? : Compiler → Option Formula
  | gcc49 => some ⟨"gcc@4.9", []⟩
  | gcc5 => some ⟨"gcc@5", []⟩
  | gcc6 => some ⟨"gcc@6", []⟩
  | clangDefault => none
  | clang37 => some ⟨"llvm@3.7", llvmFlags⟩
  | clang38 => some ⟨"llvm@3.8", llvmFlags⟩
  | clang39 => some ⟨"llvm@3.9", llvmFlags⟩
  | clang40 => some ⟨"llvm@4", llvmFlags⟩
  | clang50 => some ⟨"llvm@5", llvmFlags⟩

/-- The compiler with a given spelling. -/
def ofSpelling? (text : String) : Option Compiler :=
  all.find? fun compiler => compiler.spelling = text

/-- The compiler with a given tag. -/
def ofTag? (text : String) : Option Compiler :=
  all.find? fun compiler => compiler.tag = text

/-- A compiler is found by its spelling. -/
@[simp] theorem ofSpelling?_spelling (compiler : Compiler) :
    ofSpelling? compiler.spelling = some compiler := by
  cases compiler <;> decide

/-- A compiler is found by its tag. -/
@[simp] theorem ofTag?_tag (compiler : Compiler) : ofTag? compiler.tag = some compiler := by
  cases compiler <;> decide

/-- A text chooses a compiler exactly when it is that compiler's spelling. -/
theorem ofSpelling?_eq_some_iff {text : String} {compiler : Compiler} :
    ofSpelling? text = some compiler ↔ text = compiler.spelling := by
  constructor
  · intro found
    rw [ofSpelling?] at found
    have spelled := List.find?_some found
    exact (of_decide_eq_true spelled).symm
  · rintro rfl
    exact ofSpelling?_spelling compiler

/-- What a choice of compiler is called when none was made. -/
def unset : String := "<unset>"

/-- The compiler that was chosen, if a supported one was. -/
def select (choice : Option String) : Except Failure Compiler :=
  match choice with
  | none => .error (.unsupportedCompiler unset)
  | some text =>
    match ofSpelling? text with
    | some compiler => .ok compiler
    | none => .error (.unsupportedCompiler text)

/-- A choice selects a compiler exactly when it is that compiler's spelling. -/
theorem select_eq_ok_iff {choice : Option String} {compiler : Compiler} :
    select choice = .ok compiler ↔ choice = some compiler.spelling := by
  cases choice with
  | none => simp [select]
  | some text =>
    rw [Option.some.injEq, ← ofSpelling?_eq_some_iff]
    cases found : ofSpelling? text <;> simp [select, found]

end Compiler

end HostProvision
