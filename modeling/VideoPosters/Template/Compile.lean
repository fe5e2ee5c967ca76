import VideoPosters.Template.Basic
import VideoPosters.Text.Blank
import VideoPosters.Text.Pieces
import VideoPosters.Text.Utf8

/-!
# Compiling templates

Template text is literal text with spans of the form `{{= path }}`.  Compiling cuts it
at the first `{{`, reads the span that starts there up to the first `}}` after it, and
goes on behind that.  Anything else after a `{{` is an error, which names the octet at
which the span starts.

## Main definitions

* `Template.Reason` — what is wrong with a span.
* `Template.CompileError` — a reason and the octet at which the span starts.
* `Template.splitOpen?`, `Template.splitClose?` — the text around the first `{{`, `}}`.
* `Template.path?` — the path of an expression.
* `Template.compile` — the tokens of a text.
* `Template.excerpt` — the start of a text, by which an error names it.
-/

namespace VideoPosters

namespace Template

open Text (trim splitAt)
open Text.Utf8 (size)

/-- What is wrong with a span. -/
inductive Reason where
  /-- The `{{` is not followed by `=`. -/
  | unsupported
  /-- No `}}` follows. -/
  | unclosed
  /-- Nothing but blanks stands in the span. -/
  | emptyExpression
  /-- An index is `2 ^ 64` or more. -/
  | indexOutOfRange
  /-- A segment of the expression is neither an index nor a key. -/
  | invalidSegment (segment expression : List Char)
  deriving DecidableEq, Repr

/-- The words for a reason. -/
def Reason.message : Reason → String
  | .unsupported => "only `\x7b\x7b= path \x7d\x7d` interpolation is supported"
  | .unclosed => "unclosed `\x7b\x7b=`"
  | .emptyExpression => "empty expression"
  | .indexOutOfRange => "index out of range"
  | .invalidSegment segment expression =>
    "invalid path segment `" ++ String.ofList segment ++ "` in `" ++
      String.ofList expression ++ "`"

/-- A reason, and the octet at which the span starts. -/
structure CompileError where
  offset : Nat
  reason : Reason
  deriving DecidableEq, Repr

/-! ### Marks -/

/-- The text before and after the first place where a character stands twice in a row. -/
def splitDouble? (mark : Char) : List Char → Option (List Char × List Char)
  | c :: d :: rest =>
    if c = mark ∧ d = mark then some ([], rest)
    else (splitDouble? mark (d :: rest)).map fun (before, after) => (c :: before, after)
  | _ => none

/-- The text before and after the first `{{`. -/
def splitOpen? (s : List Char) : Option (List Char × List Char) := splitDouble? '\x7b' s

/-- The text before and after the first `}}`. -/
def splitClose? (s : List Char) : Option (List Char × List Char) := splitDouble? '\x7d' s

/-- The parts around a mark make up the text. -/
theorem eq_of_splitDouble? {mark : Char} {s before after : List Char}
    (h : splitDouble? mark s = some (before, after)) : s = before ++ mark :: mark :: after := by
  fun_induction splitDouble? mark s generalizing before after with
  | case1 c d rest hm => obtain ⟨rfl, rfl⟩ := hm; simp_all
  | case2 c d rest hm ih =>
    obtain ⟨⟨b, a⟩, hb, he⟩ := Option.map_eq_some_iff.1 h
    simp only [Prod.mk.injEq] at he
    obtain ⟨rfl, rfl⟩ := he
    simp [ih hb]
  | case3 => simp at h

/-! ### Paths -/

/-- The characters that start a key. -/
def isKeyStart (c : Char) : Bool := Text.isLetter c || c = '_' || c = '$'

/-- The characters that continue a key. -/
def isKeyRest (c : Char) : Bool := Text.isLetterOrNumeral c || c = '_' || c = '$' || c = '-'

/-- Keys start with a letter, `_` or `$` and go on with letters, numerals, `_`, `$` and
`-`. -/
def isKey : List Char → Bool
  | [] => false
  | c :: rest => isKeyStart c && rest.all isKeyRest

/-- The value of a run of ASCII digits. -/
def indexValue (digits : List Char) : Nat :=
  digits.foldl (fun n c => 10 * n + (c.toNat - 48)) 0

/-- The segment written as `s`; `expression` is the expression it belongs to. -/
def segment? (expression s : List Char) : Except Reason Segment :=
  if !s.isEmpty && s.all Char.isDigit then
    if indexValue s < Nat.pow 2 64 then .ok (.index (indexValue s)) else .error .indexOutOfRange
  else if isKey s then .ok (.key s)
  else .error (.invalidSegment s expression)

/-- The segments of an expression, up to the first one that is wrong. -/
def segments? (expression : List Char) : List (List Char) → Except Reason (List Segment)
  | [] => .ok []
  | s :: rest =>
    match segment? expression s with
    | .error reason => .error reason
    | .ok segment =>
      match segments? expression rest with
      | .error reason => .error reason
      | .ok path => .ok (segment :: path)

/-- The path of the text between `{{=` and `}}`. -/
def path? (text : List Char) : Except Reason (List Segment) :=
  let expression := trim text
  if expression.isEmpty then .error .emptyExpression
  else segments? expression (splitAt '.' expression)

/-! ### Texts -/

/-- A literal token, unless the text is empty. -/
def literalToken (text : List Char) : List Token := if text.isEmpty then [] else [.literal text]

/-- The path of the span after a `{{`, and the text behind the span. -/
def span? (inner : List Char) : Except Reason (List Segment × List Char) :=
  match inner with
  | '=' :: expression =>
    match splitClose? expression with
    | none => .error .unclosed
    | some (text, after) =>
      match path? text with
      | .error reason => .error reason
      | .ok path => .ok (path, after)
  | _ => .error .unsupported

/-- The text behind a span is shorter than the text the span starts in. -/
theorem length_after_span {inner after : List Char} {path : List Segment}
    (h : span? inner = .ok (path, after)) : after.length < inner.length := by
  unfold span? at h
  split at h
  · next expression =>
    split at h
    · cases h
    · next text after' hs =>
      split at h
      · cases h
      · simp only [Except.ok.injEq, Prod.mk.injEq] at h
        obtain ⟨-, rfl⟩ := h
        rw [eq_of_splitDouble? hs]
        simp only [List.length_cons, List.length_append]
        omega
  · cases h

/-- The octets of a span whose text behind it is given. -/
def spanSize (inner after : List Char) : Nat := 2 + (size inner - size after)

/-- The tokens of the text `s`, which starts at the octet `offset`. -/
def compileAt (offset : Nat) (s : List Char) : Except CompileError (List Token) :=
  match _hs : splitOpen? s with
  | none => .ok (literalToken s)
  | some (before, inner) =>
    match _hp : span? inner with
    | .error reason => .error ⟨offset + size before, reason⟩
    | .ok (path, after) =>
      match compileAt (offset + size before + spanSize inner after) after with
      | .error e => .error e
      | .ok tokens => .ok (literalToken before ++ .interpolate path :: tokens)
termination_by s.length
decreasing_by
  have h := length_after_span _hp
  rw [eq_of_splitDouble? _hs]
  simp only [List.length_append, List.length_cons]
  omega

/-- The tokens of a text. -/
def compile (text : String) : Except CompileError (List Token) := compileAt 0 text.toList

/-- How many characters of a text an error shows. -/
def excerptLength : Nat := 40

/-- The start of a text, by which an error names it. -/
def excerpt (text : String) : String :=
  let chars := text.toList
  if excerptLength < chars.length then
    String.ofList (chars.take excerptLength ++ ['.', '.', '.'])
  else text

end Template

end VideoPosters
