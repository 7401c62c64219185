import Mathlib.Tactic.ByContra
import PageClip.Answer
import PageClip.Proofs.FetchTurns

/-! The faults of a download, each with what it comes from. A client reports its own, and an answer
fails one of the three checks, of which a length that is no integer has a status of its own. -/

namespace PageClip

section reply
variable {codecs : Codecs} {url : Text} {script : List Reply} {r : Response} {e : FetchError}

end reply

end PageClip
