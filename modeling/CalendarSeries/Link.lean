import CalendarSeries.Journal
import CalendarSeries.Wire
/-!
The link to a server, as a script: the answers that are still to come, and what has been sent and
noted so far. A run on a link ends with a value or an error, and keeps its trace in either case.
-/
namespace CalendarSeries

/-- What a server answers. To a batch it may give one reply for each command, or return the start
of the range that a command asks for, with the command's number. -/
inductive Answer where
  | reply (value : Value)
  | failure (error : Error)
  | each (value : Value)
  | echo

/-- What goes over the link. -/
inductive Event where
  | command (words : List String)
  | opened
  | executed
  deriving DecidableEq, Repr

structure Link where
  answers : List Answer
  /-- The commands that wait in the open batch. -/
  batch : List (List String) := []
  events : List Event := []
  notes : List Note := []

/-- The options that decide how commands are sent. -/
structure Context where
  debug : Bool := false
  chunkSize : Int := 128
  zone : String := "UTC"
  deriving DecidableEq, Repr

/-- A context in words, with a server of the given name. -/
def Context.literal (context : Context) (server : String) : String :=
  "RedisContext(" ++ server ++ ", debug=" ++ Value.boolText context.debug ++ ")"

abbrev Run (α : Type) := ExceptT Error (StateM Link) α

namespace Link

def note (note : Note) : Run Unit :=
  modify fun link => { link with notes := link.notes ++ [note] }

def noteAll (notes : List Note) : Run Unit :=
  modify fun link => { link with notes := link.notes ++ notes }

def record (event : Event) : Run Unit :=
  modify fun link => { link with events := link.events ++ [event] }

/-- The next answer of the script, if one is left. -/
def nextAnswer : Run (Option Answer) := do
  let link ← get
  match link.answers with
  | [] => pure none
  | answer :: answers =>
    set { link with answers }
    pure (some answer)

/-- The words of a command; they are noted before they are sent if the context says so. -/
def prepare (context : Context) (name : String) (arguments : List Value) : Run (List String) := do
  let words := Wire.arguments arguments
  if context.debug then
    note ⟨.debug, .client, name ++ " " ++ " ".intercalate words⟩
  pure (name :: words)

/-- Sends one command and waits for its reply. -/
def call (context : Context) (name : String) (arguments : List Value) : Run Value := do
  let words ← prepare context name arguments
  record (.command words)
  match ← nextAnswer with
  | some (.reply value) => pure value
  | some (.failure error) => throw error
  | some (.each value) => pure value
  | _ => pure .none

/-- Opens a batch. -/
def openBatch : Run Unit := do
  record .opened
  modify fun link => { link with batch := [] }

/-- Puts a command into the open batch. -/
def queue (context : Context) (name : String) (arguments : List Value) : Run Unit := do
  let words ← prepare context name arguments
  record (.command words)
  modify fun link => { link with batch := link.batch ++ [words] }

/-- A whole number with digits and at most a minus sign, else zero. -/
def plainNumber (word : String) : Int :=
  match Whole.splitSign word.toList with
  | (_, []) => 0
  | (negative, digits) =>
    if word.startsWith "+" then 0
    else match digits.mapM Text.asciiValue with
      | some values => Whole.signed negative (Text.digitsValue values)
      | none => 0

/-- The row that an echo gives for the `index`-th command. -/
def echoRow (index : Nat) (words : List String) : Value :=
  let start := plainNumber (words.getD 2 "")
  .list [.list [.int start, .bytes ((Nat.toDigits 10 index).map fun c => c.toNat.toUInt8)]]

/-- Sends the open batch and waits for the replies to all its commands. -/
def execute : Run Value := do
  record .executed
  let batch := (← get).batch
  modify fun link => { link with batch := [] }
  match ← nextAnswer with
  | none => pure (.list [])
  | some (.reply value) => pure value
  | some (.failure error) => throw error
  | some (.each value) => pure (.list (batch.map fun _ => value))
  | some .echo => pure (.list (batch.zipIdx.map fun (words, index) => echoRow index words))

/-- What a run on a link comes to, and the link after it. -/
def perform (run : Run α) (link : Link) : Except Error α × Link :=
  run.run.run link

end Link

/-- A result that needs no link. -/
def Run.ofExcept (result : Except Error α) : Run α :=
  match result with
  | .ok value => pure value
  | .error error => throw error

end CalendarSeries
