import EventXref.Event.Occurrence

namespace EventXref.Lens

def noun : EventKind → String
  | .trigger => "Event Trigger"
  | .listener => "Event Listener"

def title (kind : EventKind) (count : Nat) : String :=
  let found := noun kind.opposite
  match count with
  | 0 => "No " ++ found ++ "s Found"
  | 1 => "1 " ++ found
  | n => toString n ++ " " ++ found ++ "s"

end EventXref.Lens
