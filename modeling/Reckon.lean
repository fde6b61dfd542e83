import Reckon.Main
import Reckon.Loop
import Reckon.Proofs.Replay
import Reckon.Proofs.Result
import Reckon.Proofs.Budget
import Reckon.Proofs.Regrouping
import Reckon.Proofs.Ternary
import Reckon.Proofs.Sequence
import Reckon.Proofs.Pending
import Reckon.Proofs.Places
import Reckon.Proofs.Coercing
import Reckon.Proofs.Consumption
import Reckon.Proofs.Nesting
import Reckon.Proofs.Parentheses
import Reckon.Proofs.Division
import Reckon.Proofs.Uses
import Reckon.Proofs.Footprint
import Reckon.Proofs.Inside
import Reckon.Proofs.Assigning
import Reckon.Proofs.ReadBack
import Reckon.Proofs.Confinement
import Reckon.Proofs.Printed
import Reckon.Proofs.Recency
import Reckon.Proofs.ByteScanning
import Reckon.Proofs.ListText
import Reckon.Proofs.Wrapping
import Reckon.Proofs.IntegerChain
import Reckon.Proofs.Exclamation
import Reckon.Proofs.Header
import Reckon.Proofs.Bitwise
import Reckon.Proofs.Representation
import Reckon.Proofs.Rereading
import Reckon.Proofs.Concatenation
import Reckon.Proofs.PropertyPath
import Reckon.Proofs.Resemblance
import Reckon.Proofs.Phonetics
import Reckon.Proofs.PatternSearch
import Reckon.Proofs.PatternEnding
import Reckon.Proofs.PatternReaders
import Reckon.Proofs.PatternClasses
import Reckon.Proofs.PatternReading
import Reckon.Proofs.PatternGroups
import Reckon.Proofs.FullMatch
import Reckon.Proofs.Arguments
import Reckon.Proofs.Depth
