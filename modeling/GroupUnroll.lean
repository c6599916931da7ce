import GroupUnroll.Main
import GroupUnroll.Proofs.Resolution
import GroupUnroll.Proofs.FirstRefusal
import GroupUnroll.Proofs.Coverage
import GroupUnroll.Proofs.SizeLimit
import GroupUnroll.Proofs.Seams
import GroupUnroll.Proofs.Lookup
import GroupUnroll.Proofs.Origin
import GroupUnroll.Proofs.PassThrough
import GroupUnroll.Proofs.Nesting
import GroupUnroll.Proofs.SelfContained
import GroupUnroll.Proofs.Bodies
import GroupUnroll.Proofs.Calls
import GroupUnroll.Proofs.OpenGroups
import GroupUnroll.Proofs.Spelling
import GroupUnroll.Proofs.Braces
import GroupUnroll.Proofs.CopySize
import GroupUnroll.Proofs.Monotone
import GroupUnroll.Proofs.Front
import GroupUnroll.Proofs.History
import GroupUnroll.Proofs.Wrappers
import GroupUnroll.Proofs.Openers
import GroupUnroll.Proofs.Picks
import GroupUnroll.Proofs.Classes
import GroupUnroll.Proofs.GroupQuantifiers
import GroupUnroll.Proofs.Canonical
