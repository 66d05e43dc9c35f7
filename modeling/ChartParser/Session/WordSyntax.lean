import ChartParser.Morphology.Token
import ChartParser.Text.Alphanumeric

/-!
# Words as typed

With a lexicon, the words of a sentence are typed with what is known of them, in parts between
slashes: a form with its headword, class and tags, or a name with its gender and cases. A form alone
is punctuation if nothing in it is alphanumeric, and an unknown word otherwise.
-/

namespace ChartParser

/-- Why a typed word is no token. -/
inductive WordFault where
  | unknownGender (word : String)
  | unknownCase (name : String)
  | unreadable (word : String)
deriving DecidableEq, Repr

/-- The wording of a fault in a typed word. -/
def WordFault.message : WordFault → String
  | unknownGender word => "unknown gender in " ++ word
  | unknownCase name => (Fault.unknownCase name).message
  | unreadable word => "can't read token " ++ Text.quoted word

namespace Token

/-- The case of that name. -/
def typedCase (name : String) : Except WordFault Case :=
  match Case.ofName? name with
  | some case => .ok case
  | none => .error (.unknownCase name)

/-- A name with one reading for each of its cases. -/
def typedName (word form gender cases : String) : Except WordFault Token :=
  match Gender.ofName? gender with
  | none => .error (.unknownGender word)
  | some gender =>
    ((Text.splitAt ',' cases).mapM typedCase).map fun cases =>
      ⟨form, .person (cases.map fun case => ⟨form, some gender, some case⟩)⟩

/-- A form without anything known of it. -/
def typedForm (form : String) : Token :=
  if form.toList.all (!Text.isAlphanumeric ·) then ⟨form, .punctuation⟩ else ⟨form, .word []⟩

/-- The token that a typed word stands for. -/
def ofTyped (word : String) : Except WordFault Token :=
  match Text.splitAt '/' word with
  | [form] => .ok (typedForm form)
  | [form, headword, wordClass, tags] =>
    if headword = "person" then typedName word form wordClass tags
    else
      .ok ⟨form, .word ((Text.splitAt ',' tags).map (Meaning.of headword wordClass form))⟩
  | _ => .error (.unreadable word)

end Token

end ChartParser
