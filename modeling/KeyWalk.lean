import KeyWalk.Demo
import KeyWalk.Main
import KeyWalk.Proofs.ChangingWalk
import KeyWalk.Proofs.FullWalk
import KeyWalk.Proofs.ScoreText
import KeyWalk.Proofs.BoundMeaning
import KeyWalk.Proofs.RangeRead
import KeyWalk.Proofs.Course
import KeyWalk.Proofs.StreamedWalk
import KeyWalk.Proofs.Dialogue
import KeyWalk.Proofs.OpaqueToken
import KeyWalk.Proofs.ClientSurface
import KeyWalk.Proofs.ClientsAgree
import KeyWalk.Proofs.Rendezvous
import KeyWalk.Proofs.ScoreReads
import KeyWalk.Proofs.Contributions
import KeyWalk.Proofs.ScanFailure
import KeyWalk.Proofs.OneCollection
import KeyWalk.Proofs.SourceOrder
import KeyWalk.Proofs.Removal
import KeyWalk.Proofs.Ranks
import KeyWalk.Proofs.RankBlock
import KeyWalk.Proofs.NameBoundText
import KeyWalk.Proofs.SentScores
import KeyWalk.Proofs.SetHistory
import KeyWalk.Proofs.AcceptCalls
import KeyWalk.Proofs.FieldCounter
import KeyWalk.Proofs.Resumption
import KeyWalk.Proofs.ScanPositions
import KeyWalk.Proofs.FieldTally
import KeyWalk.Proofs.TypeMismatch
import KeyWalk.Proofs.TransportText
