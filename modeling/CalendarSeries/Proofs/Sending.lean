import CalendarSeries.Proofs.Query.Execution
/-!
Single commands: a call sends the words of its arguments, and what it comes to is decided by the
next answer. Most arguments are one word.
-/
namespace CalendarSeries

namespace Link

/-- The outcome of a call on a link, by the next answer. -/
def replied (link : Link) : Except Error Value :=
  match link.answers.head? with
  | some (.reply value) => .ok value
  | some (.failure error) => .error error
  | some (.each value) => .ok value
  | _ => .ok .none

/-- A call sends its command and nothing else. -/
theorem perform_call (link : Link) (context : Context) (name : String) (arguments : List Value) :
    ∃ after, perform (call context name arguments) link = (link.replied, after) ∧
      after.events = link.events ++ [.command (name :: Wire.arguments arguments)] := by
  obtain ⟨answers, batch, events, notes⟩ := link
  unfold call prepare
  rcases answers with _ | ⟨answer | answer | answer | _, answers⟩ <;> cases context.debug
  all_goals exact ⟨_, rfl, rfl⟩

end Link

namespace Wire

theorem arguments_append (first rest : List Value) :
    arguments (first ++ rest) = arguments first ++ arguments rest := by
  induction first with
  | nil => rfl
  | cons value values ih =>
    rw [List.cons_append, arguments, arguments, ih, List.append_assoc]

/-- A value that has a word of its own: all are but nothing at all, lists and tuples. -/
def IsWorded : Value → Prop
  | .none => False
  | .list _ => False
  | .tuple _ => False
  | _ => True

theorem argument_of_isWorded {value : Value} (worded : IsWorded value) :
    argument value = [word value] := by
  cases value <;> first | rfl | cases worded

end Wire

end CalendarSeries
