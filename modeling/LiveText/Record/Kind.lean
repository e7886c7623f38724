import LiveText.Value.Written
import LiveText.Text.Lower

/-!
# Kinds of records

A record belongs to a character, a task, a file, a workflow, or to an author who made it up. What a
catalog calls a kind has changed over time; `RecordKind.ofCatalog` reads all the spellings, and
takes what it does not know for `unknown`. Where no record is known, `guessKind` guesses the kind
from the name of the source by a table of rules.
-/

set_option autoImplicit false

namespace LiveText

/-- What a record belongs to. -/
inductive RecordKind
  | npc
  | task
  | custom
  | file
  | workflow
  | unknown
  deriving DecidableEq, Repr

namespace RecordKind

/-- The word for a kind. -/
def word : RecordKind → String
  | npc => "npc"
  | task => "task"
  | custom => "custom"
  | file => "file"
  | workflow => "workflow"
  | unknown => "unknown"

/-- All kinds. -/
def all : List RecordKind := [npc, task, custom, file, workflow, unknown]

/-- The kind that a word stands for; the word must be exact. -/
def ofWord? (t : Text) : Option RecordKind := all.find? fun k => k.word.toList == t

/-- Spellings of older catalogs, in lower case with underscores. -/
def aliases : List (String × RecordKind) :=
  [("worktask", task), ("work_task", task), ("flow", workflow), ("user", custom)]

/-- The kind that a catalog value stands for, whatever its case and whether its words are joined by
hyphens or underscores. -/
def ofCatalog (v : Value) : RecordKind :=
  if v.isBlank then unknown
  else
    let key := (Text.lower (Text.trim v.written)).map fun c => if c = '-' then '_' else c
    match aliases.find? fun a => a.1.toList == key with
    | some a => a.2
    | none => (ofWord? key).getD unknown

/-- The word for a kind stands for that kind. -/
theorem ofWord?_word (k : RecordKind) : ofWord? k.word.toList = some k := by
  cases k <;> decide

end RecordKind

/-! ## Guessing a kind -/

/-- A rule that reads a kind off the name of a source. -/
structure KindRule where
  needle : Text
  kind : RecordKind
  /-- the needle must end the name -/
  atEnd : Bool := false
  caseSensitive : Bool := true

namespace KindRule

/-- Whether the needle of the rule occurs in a name. -/
def applies (r : KindRule) (name : Text) : Bool :=
  let needle := if r.caseSensitive then r.needle else Text.lower r.needle
  let name := if r.caseSensitive then name else Text.lower name
  if r.atEnd then needle.isSuffixOf name else Text.occursIn needle name

/-- The rules that hold where no others are given. -/
def standard : List KindRule :=
  [{ needle := "工作流".toList, kind := .workflow },
   { needle := "workflow".toList, kind := .workflow, caseSensitive := false },
   { needle := "任务".toList, kind := .task },
   { needle := "task".toList, kind := .task, caseSensitive := false },
   { needle := "是谁".toList, kind := .task, atEnd := true },
   { needle := "NPC".toList, kind := .npc },
   { needle := "npc".toList, kind := .npc }]

end KindRule

/-- The kind that the first rule that applies reads off a name. -/
def guessKind (rules : List KindRule) (otherwise : RecordKind) (name : Text) : RecordKind :=
  if name.isEmpty then otherwise
  else match rules.find? (·.applies name) with
    | some r => r.kind
    | none => otherwise

end LiveText
