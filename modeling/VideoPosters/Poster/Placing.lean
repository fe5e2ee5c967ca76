import VideoPosters.Poster.Basic

/-!
# Placing posters

Posters are made one after the other.  Each is placed on the page, if a placer is chosen,
and then shown to whoever asked for it.  A poster that cannot be placed ends it all.

## Main definitions

* `Deed` — what is done with a poster.
* `placePosters` — the deeds for some videos, and the posters.
-/

namespace VideoPosters

/-- What is done with a poster. -/
inductive Deed where
  /-- The page is asked to place it. -/
  | place (link : Link) (poster : Poster) (placer : Placer)
  /-- It is shown to whoever asked for posters. -/
  | present (link : Link) (poster : Poster)
  deriving Repr

/-- The deeds for some videos, and the posters.  `refusal?` gives the reason for which the
page refuses a placement, by the number of placements before; `count` were asked for
before. -/
def placePosters (refusal? : Nat → Option String) (options : Options)
    (template : List Template.Token) (count : Nat) :
    List LinkedVideo → List Deed × Except Failure (List Poster)
  | [] => ([], .ok [])
  | v :: videos =>
    let poster := Poster.make options template v.video
    let goOn (count : Nat) (before : List Deed) : List Deed × Except Failure (List Poster) :=
      let (deeds, outcome) := placePosters refusal? options template count videos
      (before ++ .present v.link poster :: deeds, outcome.map (poster :: ·))
    match poster.placer with
    | none => goOn count []
    | some placer =>
      match refusal? count with
      | some reason => ([.place v.link poster placer], .error (.foreign reason))
      | none => goOn (count + 1) [.place v.link poster placer]

end VideoPosters
