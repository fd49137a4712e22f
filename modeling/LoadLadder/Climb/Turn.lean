import LoadLadder.Climb.Thread

/-!
# Turns

Whose turn it is in a thread, and the moves of the client when it is the client's: calling a further
operation, taking its answer, and ending a callback.
-/

namespace LoadLadder

/-- Whose turn it is. -/
inductive Turn
  | loader
  | callback (callback : Callback)
  /-- The client receives the answer to its last operation. -/
  | answered (reply : Reply)
  deriving Repr

namespace Thread

def turn (thread : Thread) : Turn :=
  match thread.task with
  | .callback callback => .callback callback
  | .answer reply =>
      match thread.stack with
      | [] => .answered reply
      | .onOperation _ :: _ => .answered reply
      | _ => .loader
  | _ => .loader

/-- The client starts a loading operation, from within a callback or from outside. -/
def call (thread : Thread) (task : Task) : Thread :=
  match thread.task with
  | .callback callback => ⟨task, .onOperation callback :: thread.stack⟩
  | _ => ⟨task, thread.stack⟩

/-- The client takes the answer to its last operation and is back in its callback, if it was in
one. -/
def resume (thread : Thread) : Thread :=
  match thread.stack with
  | .onOperation callback :: stack => ⟨.callback callback, stack⟩
  | _ => thread

/-- The thread has answered and nothing waits for the answer. -/
def isDone (thread : Thread) : Bool :=
  match thread.task with
  | .answer _ => thread.stack.isEmpty
  | _ => false

/-- How the thread's operation ended; one that has not ended counts as having succeeded. -/
def outcome (thread : Thread) : Except Fault Unit :=
  match thread.task with
  | .answer reply => reply.map fun _ => ()
  | _ => .ok ()

def finish (thread : Thread) (result : Except Fault Unit) : Thread :=
  ⟨.answer (result.map fun _ => true), thread.stack⟩

end Thread

end LoadLadder
