import ChartParser.Morphology.Inflection
import ChartParser.Text.Casing

/-!
# Variants of a terminal

A category terminal is narrowed by variants: a case, a gender, a number, a verb form. Every text
is a variant; one that has no meaning of its own is looked for in upper case in the inflection
tag.
-/

namespace ChartParser

/-- Grammatical person of a verb form. -/
inductive VerbPerson where
  | first
  | second
  | third
deriving DecidableEq, Repr

/-- A variant that has a meaning of its own beside case and gender. -/
inductive Feature where
  | singular
  | plural
  | person (person : VerbPerson)
  | objects (count : Fin 3)
  | infinitive
  | subjunctive
  | indicative
  | imperative
  | presentParticiple
  | pastParticiple
  | supine
  | present
  | past
  | active
  | mediopassive
  | strong
  | weak
  | article
  | abbreviation
  | obliqueSubject
deriving DecidableEq, Repr

namespace Feature

/-- The feature as terminals write it. -/
def name : Feature → String
  | singular => "et"
  | plural => "ft"
  | person .first => "p1"
  | person .second => "p2"
  | person .third => "p3"
  | objects 0 => "0"
  | objects 1 => "1"
  | objects 2 => "2"
  | infinitive => "nh"
  | subjunctive => "vh"
  | indicative => "fh"
  | imperative => "bh"
  | presentParticiple => "lh"
  | pastParticiple => "lhþt"
  | supine => "sagnb"
  | present => "nt"
  | past => "þt"
  | active => "gm"
  | mediopassive => "mm"
  | strong => "sb"
  | weak => "vb"
  | article => "gr"
  | abbreviation => "abbrev"
  | obliqueSubject => "subj"

/-- The mark of the feature in an inflection tag, for those that tags express. -/
def mark? : Feature → Option String
  | singular => some "ET"
  | plural => some "FT"
  | person .first => some "1P"
  | person .second => some "2P"
  | person .third => some "3P"
  | infinitive => some "NH"
  | subjunctive => some "VH"
  | indicative => some "FH"
  | imperative => some "BH"
  | presentParticiple => some "LH"
  | pastParticiple => some "LHÞT"
  | supine => some "SAGNB"
  | present => some "NT"
  | past => some "ÞT"
  | active => some "GM"
  | mediopassive => some "MM"
  | strong => some "SB"
  | weak => some "VB"
  | article => some "gr"
  | objects _ => none
  | abbreviation => none
  | obliqueSubject => none

/-- The feature of that name. -/
def ofName? : String → Option Feature
  | "et" => some singular
  | "ft" => some plural
  | "p1" => some (person .first)
  | "p2" => some (person .second)
  | "p3" => some (person .third)
  | "0" => some (objects 0)
  | "1" => some (objects 1)
  | "2" => some (objects 2)
  | "nh" => some infinitive
  | "vh" => some subjunctive
  | "fh" => some indicative
  | "bh" => some imperative
  | "lh" => some presentParticiple
  | "lhþt" => some pastParticiple
  | "sagnb" => some supine
  | "nt" => some present
  | "þt" => some past
  | "gm" => some active
  | "mm" => some mediopassive
  | "sb" => some strong
  | "vb" => some weak
  | "gr" => some article
  | "abbrev" => some abbreviation
  | "subj" => some obliqueSubject
  | _ => none

/-- Only the name of a feature stands for it. -/
theorem ofName?_eq_some_iff {text : String} {feature : Feature} :
    ofName? text = some feature ↔ text = feature.name := by
  constructor
  · intro found
    unfold ofName? at found
    split at found
    case h_25 => cases found
    all_goals
      obtain rfl := Option.some.inj found
      rfl
  · rintro rfl
    cases feature with
    | person person => cases person <;> rfl
    | objects count => match count with | 0 | 1 | 2 => rfl
    | _ => rfl

end Feature

/-- One variant of a category terminal. -/
inductive Variant where
  | case (case : Case)
  | gender (gender : Gender)
  | feature (feature : Feature)
  | other (name : String)
deriving DecidableEq, Repr

namespace Variant

/-- The variant that a text stands for. -/
def ofName (text : String) : Variant :=
  match Case.ofName? text with
  | some c => case c
  | none =>
    match Gender.ofName? text with
    | some g => gender g
    | none =>
      match Feature.ofName? text with
      | some f => feature f
      | none => other text

/-- The text that stands for the variant. -/
def name : Variant → String
  | case c => c.name
  | gender g => g.name
  | feature f => f.name
  | other text => text

/-- Reading a variant loses nothing of its text. -/
theorem name_ofName (text : String) : (ofName text).name = text := by
  rw [ofName]
  split
  · rename_i found
    exact (Case.ofName?_eq_some_iff.1 found).symm
  · split
    · rename_i found
      exact (Gender.ofName?_eq_some_iff.1 found).symm
    · split
      · rename_i found
        exact (Feature.ofName?_eq_some_iff.1 found).symm
      · rfl

/-- The mark that an inflection tag must carry to agree with the variant, for those that tags
express. -/
def mark? : Variant → Option String
  | case c => some c.mark
  | gender g => some g.mark
  | feature f => f.mark?
  | other text => some (Text.uppercase text)

/-- The case that the variant asks for. -/
def case? : Variant → Option Case
  | case c => some c
  | _ => none

/-- The gender that the variant asks for. -/
def gender? : Variant → Option Gender
  | gender g => some g
  | _ => none

end Variant

end ChartParser
