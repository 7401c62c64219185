import PageClip.Proofs.FetchFault
import PageClip.Proofs.FetchTurns
import PageClip.Service

/-! The status of a failed download. It follows from what the last turn came to, and it is the
one that the failure deserves unless the last turn is one of five that are misjudged. -/

namespace PageClip

section deserved
variable {rejected timedOut : Prop} {outcome : Except FetchError Text} {status : Nat}
  {fault : ClientFault} {message : Text}

end deserved

section turn
variable {codecs : Codecs} {dns : Resolver} {t : Turn} {r : Response} {e : FetchError}
  {next : Text} {fault : ClientFault} {message : Text}

end turn

section run
variable {codecs : Codecs} {dns : Resolver} {url : Text} {script : List Reply}
  {before : List Turn} {t : Turn}

end run

end PageClip
