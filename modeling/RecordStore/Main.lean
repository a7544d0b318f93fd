import RecordStore.Smoke

/-!
The command line: the smoke run, its report on the output and its log on the error stream.
-/

def main : IO UInt32 := do
  let outcome := RecordStore.Smoke.run
  let (_, logging) := (RecordStore.Logging.inactive ⟨[], []⟩).init RecordStore.LogOptions.default
  for event in (logging.recordAll outcome.events).written do
    IO.eprintln event.line
  match outcome.result with
  | .ok lines =>
    for line in lines do
      IO.println line
    return 0
  | .error e =>
    IO.eprintln e.message
    return 1
