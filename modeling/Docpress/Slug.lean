import Docpress.Text.Case
import Docpress.Text.Word
/-!
Slugs: the identifiers of headings.
-/

namespace Docpress.Slug

/-- One hyphen for each maximal run of characters that are not word characters; `inRun` while such
    a run is being passed over. -/
def hyphenate : Bool → Text → Text
  | _, [] => []
  | inRun, c :: s =>
    if isWord c then c :: hyphenate false s
    else if inRun then hyphenate true s
    else '-' :: hyphenate true s

/-- The slug of a title: its lower case, with one hyphen for each run of other characters. -/
def ofTitle (title : Text) : Text :=
  hyphenate false (lower title)

/-- The first of `slug`, `slug-1`, `slug-2`, … that is not taken, looking at `fuel` numbered ones
    from `n` on. -/
def firstFreeFrom (taken : List Text) (slug : Text) : (fuel n : Nat) → Text
  | 0, n => slug ++ '-' :: Text.ofNat n
  | fuel + 1, n =>
    let numbered := slug ++ '-' :: Text.ofNat n
    if taken.contains numbered then firstFreeFrom taken slug fuel (n + 1) else numbered

/-- The slug itself if it is free, and otherwise the first free numbered one. One of as many
    numbered slugs as there are taken ones, and one more, is always free. -/
def firstFree (taken : List Text) (slug : Text) : Text :=
  if taken.contains slug then firstFreeFrom taken slug taken.length 1 else slug

end Docpress.Slug
