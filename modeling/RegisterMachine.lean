import RegisterMachine.Main
import RegisterMachine.Proofs.Aftermath
import RegisterMachine.Proofs.ChannelHistory
import RegisterMachine.Proofs.Collection
import RegisterMachine.Proofs.Comment
import RegisterMachine.Proofs.Comparison
import RegisterMachine.Proofs.ConfigDocument
import RegisterMachine.Proofs.Counter
import RegisterMachine.Proofs.Departure
import RegisterMachine.Proofs.Diagnosis
import RegisterMachine.Proofs.Echo
import RegisterMachine.Proofs.Frame
import RegisterMachine.Proofs.Influence
import RegisterMachine.Proofs.Integer
import RegisterMachine.Proofs.JsonDocument
import RegisterMachine.Proofs.JsonWriting
import RegisterMachine.Proofs.LabelTable
import RegisterMachine.Proofs.LineEnding
import RegisterMachine.Proofs.Listing
import RegisterMachine.Proofs.Permission
import RegisterMachine.Proofs.Reporting
import RegisterMachine.Proofs.Restart
import RegisterMachine.Proofs.Spelling
import RegisterMachine.Proofs.Stopping
import RegisterMachine.Proofs.Tracing
