/-!
# Template specifiers

A specifier names a template: by an identifier of an embedded template, by an absolute
path, or by being the template text itself.

## Main definitions

* `isIdentifier` — an ASCII letter, then ASCII letters, digits, `.`, `:`, `_` and `-`.
* `Specifier` — the three kinds.
* `Specifier.classify` — the kind of a text.
-/

namespace VideoPosters

/-- The characters that continue an identifier. -/
def isIdentifierChar (c : Char) : Bool :=
  c.isAlphanum || c = '.' || c = ':' || c = '_' || c = '-'

/-- Identifiers start with a letter and go on with letters, digits and `.:_-`. -/
def isIdentifier : List Char → Bool
  | [] => false
  | c :: rest => c.isAlpha && rest.all isIdentifierChar

/-- What a specifier refers to. -/
inductive Specifier where
  /-- An embedded template, by its identifier. -/
  | identifier (name : String)
  /-- A template to be fetched, by its absolute path. -/
  | path (path : String)
  /-- The text of a template. -/
  | literal (text : String)
  deriving DecidableEq, Repr

/-- What a text refers to as a specifier. -/
def Specifier.classify (spec : String) : Specifier :=
  if isIdentifier spec.toList then .identifier spec
  else if spec.toList.head? = some '/' then .path spec
  else .literal spec

/-- A specifier is an identifier, or it is none and starts with a slash, or it is the text. -/
theorem Specifier.classify_cases (spec : String) :
    classify spec = .identifier spec ∨ classify spec = .path spec ∨
      classify spec = .literal spec := by
  rw [classify]
  split
  · exact .inl rfl
  · split
    · exact .inr (.inl rfl)
    · exact .inr (.inr rfl)

/-- What is classified as an identifier is one. -/
theorem Specifier.isIdentifier_of_classify {spec name : String}
    (h : classify spec = .identifier name) : isIdentifier spec.toList = true := by
  rw [classify] at h
  split at h
  · next hid => exact hid
  · split at h <;> cases h

/-- What is classified as a path starts with a slash. -/
theorem Specifier.head?_of_classify {spec path : String} (h : classify spec = .path path) :
    spec.toList.head? = some '/' := by
  rw [classify] at h
  split at h
  · cases h
  · split at h
    · next hslash => exact hslash
    · cases h

/-- A specifier that is classified as a path is that path. -/
theorem Specifier.eq_of_classify_path {spec path : String} (h : classify spec = .path path) :
    path = spec := by
  rcases classify_cases spec with h' | h' | h' <;> rw [h'] at h <;> cases h
  rfl

/-- A specifier that is classified as an identifier is that identifier. -/
theorem Specifier.eq_of_classify_identifier {spec name : String}
    (h : classify spec = .identifier name) : name = spec := by
  rcases classify_cases spec with h' | h' | h' <;> rw [h'] at h <;> cases h
  rfl

/-- What is classified as a text is no identifier and does not start with a slash. -/
theorem Specifier.of_classify_literal {spec text : String} (h : classify spec = .literal text) :
    isIdentifier spec.toList = false ∧ spec.toList.head? ≠ some '/' := by
  rw [classify] at h
  split at h
  · cases h
  · next hid =>
    split at h
    · cases h
    · next hslash => exact ⟨Bool.eq_false_iff.2 hid, hslash⟩

end VideoPosters
