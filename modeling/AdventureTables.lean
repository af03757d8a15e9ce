import AdventureTables.Main
import AdventureTables.Proofs.Code.SourceLiterals
import AdventureTables.Proofs.Code.Distinction
import AdventureTables.Proofs.Code.Constants
import AdventureTables.Proofs.Code.Denotation
import AdventureTables.Proofs.Code.Reordering
import AdventureTables.Proofs.Files.Overwriting
import AdventureTables.Proofs.Files.Commuting
import AdventureTables.Proofs.Program.Including
import AdventureTables.Proofs.Program.Diagnostics
import AdventureTables.Proofs.Code.Collision
import AdventureTables.Proofs.Reading.SingleKeys
import AdventureTables.Proofs.Reading.Blame
import AdventureTables.Proofs.Reading.Editing
import AdventureTables.Proofs.Dungeon.Findings
import AdventureTables.Proofs.Files.Respelling
