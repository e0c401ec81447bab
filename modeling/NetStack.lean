import NetStack.Proofs.Acceptance
import NetStack.Proofs.Arp.FirstCome
import NetStack.Proofs.Closing
import NetStack.Proofs.Draining
import NetStack.Proofs.Faultless
import NetStack.Proofs.Formats
import NetStack.Proofs.Forwarding
import NetStack.Proofs.History
import NetStack.Proofs.Http.Grammar
import NetStack.Proofs.Pinging
import NetStack.Proofs.PortBias
import NetStack.Proofs.ReceiveFifo
import NetStack.Proofs.Recycling
import NetStack.Proofs.Strangers
import NetStack.Proofs.TransmitFifo
import NetStack.Proofs.Adapter.Parallel
import NetStack.Proofs.Padding
import NetStack.Proofs.ShortBuffer
import NetStack.Proofs.Echoing
import NetStack.Proofs.Batching
import NetStack.Proofs.Replies
import NetStack.Proofs.Http.LineEndings
import NetStack.Proofs.Waiting
import NetStack.Proofs.Tcp.Window
