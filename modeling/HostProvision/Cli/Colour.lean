/-! # Coloured text

Some words are set off by colour, weight and slant. A painted text stands between a control sequence
that switches its style on and one that switches all styles off. -/

namespace HostProvision

namespace Cli

/-- A style of text. -/
inductive TextStyle where
  /-- Bold. -/
  | bold
  /-- Faint. -/
  | faint
  /-- Slanted. -/
  | slanted
  /-- Bold and underlined. -/
  | title
  /-- Bold and red, in two sequences. -/
  | alarm
  /-- Bold and blue, in one sequence. -/
  | boldBlue
  /-- Bold and red, in one sequence. -/
  | boldRed
  /-- Red. -/
  | red
  /-- Green. -/
  | green
  /-- Yellow. -/
  | yellow
  /-- Blue. -/
  | blue
  /-- Purple. -/
  | purple
  deriving DecidableEq, Repr

namespace TextStyle

/-- The control sequences that switch a style on. -/
def start : TextStyle → String
  | bold => "\x1b[1m"
  | faint => "\x1b[2m"
  | slanted => "\x1b[3m"
  | title => "\x1b[1m\x1b[4m"
  | alarm => "\x1b[1m\x1b[31m"
  | boldBlue => "\x1b[1;34m"
  | boldRed => "\x1b[1;31m"
  | red => "\x1b[31m"
  | green => "\x1b[32m"
  | yellow => "\x1b[33m"
  | blue => "\x1b[34m"
  | purple => "\x1b[35m"

/-- The control sequence that switches all styles off. -/
def reset : String := "\x1b[0m"

/-- A text in a style. -/
def paint (style : TextStyle) (text : String) : String :=
  style.start ++ text ++ reset

/-- The characters of a text in which a style is switched on again wherever all styles are switched
off. -/
def resume (style : TextStyle) : List Char → List Char
  | [] => []
  | '\x1b' :: '[' :: '0' :: 'm' :: rest =>
    reset.toList ++ (style.start.toList ++ style.resume rest)
  | c :: rest => c :: style.resume rest

/-- A text in a style, if colours are wanted. A text that itself switches styles off gets its style
back right after that. -/
def apply (style : TextStyle) (coloured : Bool) (text : String) : String :=
  if coloured then style.paint (String.ofList (style.resume text.toList)) else text

/-- Without colours a text is left as it is. -/
@[simp] theorem apply_false (style : TextStyle) (text : String) : style.apply false text = text :=
  rfl

/-- A text that switches no styles off is left as it is. -/
theorem resume_eq_self (style : TextStyle) {chars : List Char} (plain : '\x1b' ∉ chars) :
    style.resume chars = chars := by
  induction chars with
  | nil => rfl
  | cons c rest ih =>
    rw [List.mem_cons, not_or] at plain
    rw [resume, ih plain.2]
    rintro - rfl
    exact absurd rfl plain.1

/-- Styles are not switched off across a character that takes no part in that. -/
theorem resume_append (style : TextStyle) (chars rest : List Char) :
    style.resume (chars ++ '(' :: rest) = style.resume chars ++ '(' :: style.resume rest := by
  fun_induction resume style chars with
  | case1 =>
    rw [List.nil_append, resume, List.nil_append]
    nofun
  | case2 chars ih => simp only [List.cons_append, resume, ih, List.append_assoc]
  | case3 c chars plain ih =>
    rw [List.cons_append, resume, ih, List.cons_append]
    -- A sequence that ended behind the bracket would have the bracket in it.
    rintro tail rfl same
    rcases chars with - | ⟨first, - | ⟨second, - | ⟨third, chars⟩⟩⟩ <;> simp at same
    obtain ⟨rfl, rfl, rfl, -⟩ := same
    exact plain chars rfl rfl

end TextStyle

end Cli

end HostProvision
