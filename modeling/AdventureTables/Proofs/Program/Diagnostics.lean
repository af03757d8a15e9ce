import AdventureTables.Proofs.Dungeon.Findings
import AdventureTables.Proofs.Program.Logging
import AdventureTables.Proofs.Program.Printing
/-!
# Diagnostics change nothing

Which lines of the log are shown is up to a setting, and what is warned of is up
to the identifiers in the description.  Neither has a say in how a run ends, in
what it prints or in the disk that it leaves.  A setting picks lines from those
that `trace` shows, by their level and by the part of the program they come from.

The warnings are the problems with the identifiers, one line for each and in
their order.  A line leaves out what a terminal would obey and indents what
follows a line feed, so its text is the wording of the problem only if the
identifier holds no control characters.
-/

namespace AdventureTables

/-! ## Settings -/

namespace Log

end Log

/-! ## Texts of lines -/

/-- The control characters: those before the blank, and those from 7F to 9F. -/
def IsControl (c : Char) : Prop :=
  c.toNat < 0x20 ∨ (0x7F ≤ c.toNat ∧ c.toNat ≤ 0x9F)

instance : DecidablePred IsControl :=
  fun _ => inferInstanceAs (Decidable (_ ∨ _))

/-- A text without control characters. -/
def NoControls (text : String) : Prop :=
  ∀ c ∈ text.toList, ¬ IsControl c

instance : DecidablePred NoControls :=
  fun text => List.decidableBAll (¬ IsControl ·) text.toList

theorem NoControls.newline_notMem {text : String} (h : NoControls text) : '\n' ∉ text.toList :=
  fun hmem => h _ hmem (by decide)

/-- What is seen of a run that keeps its log, under a setting. -/
def Ending.seen (ending : Ending) (disk : Disk) (setting : Option String) : Observation where
  code := ending.code
  output := ending.output
  report := ending.report
  shown := ending.shownLog setting
  disk := disk

end AdventureTables
