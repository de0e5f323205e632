import Stagecraft.Main
import Stagecraft.Entity.Session
import Stagecraft.Stage.Compilation
import Stagecraft.Stage.Loop
import Stagecraft.Proofs.Sequences
import Stagecraft.Proofs.Instances
import Stagecraft.Proofs.Items
import Stagecraft.Proofs.Precedence
import Stagecraft.Proofs.Staging
import Stagecraft.Proofs.Sounds
import Stagecraft.Proofs.Asking
import Stagecraft.Proofs.Attaching
import Stagecraft.Proofs.Constructs
import Stagecraft.Proofs.Going
import Stagecraft.Proofs.Routes
import Stagecraft.Proofs.Looping
import Stagecraft.Proofs.Chains
import Stagecraft.Proofs.Repeats
import Stagecraft.Proofs.Geometries
import Stagecraft.Proofs.Sheets
import Stagecraft.Proofs.Timelines
import Stagecraft.Proofs.Filling
import Stagecraft.Proofs.Spawning
import Stagecraft.Proofs.Selecting
import Stagecraft.Proofs.Ranges
import Stagecraft.Proofs.Wrapping
import Stagecraft.Proofs.Literals
import Stagecraft.Proofs.Warnings
import Stagecraft.Proofs.Resting
import Stagecraft.Proofs.Neighbors
import Stagecraft.Proofs.Advancing
