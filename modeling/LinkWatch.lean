import LinkWatch.Address.Arithmetic
import LinkWatch.Address.Assignment
import LinkWatch.Address.Canonical
import LinkWatch.Address.Embedding
import LinkWatch.Address.Netmask
import LinkWatch.Address.Order
import LinkWatch.Address.Reader
import LinkWatch.Host.SystemFiles
import LinkWatch.Main
import LinkWatch.Monitor.Clients
import LinkWatch.Monitor.Scenario
import LinkWatch.Monitor.Threads
import LinkWatch.Observer
import LinkWatch.Program
import LinkWatch.Proofs.Address.Canonical
import LinkWatch.Proofs.Address.Position
import LinkWatch.Proofs.Difference.Content
import LinkWatch.Proofs.Monitor.Clients
import LinkWatch.Proofs.Monitor.Guards
import LinkWatch.Proofs.Monitor.Lifecycle
import LinkWatch.Proofs.Monitor.Mirror
import LinkWatch.Proofs.Monitor.Period
import LinkWatch.Proofs.Watch
import LinkWatch.Proofs.Monitor.Barrier
import LinkWatch.Proofs.Threads.Retirement
import LinkWatch.Proofs.Threads.Rounds
import LinkWatch.Proofs.Threads.Waiters
import LinkWatch.Proofs.Monitor.Failure
import LinkWatch.Proofs.Address.Packing
import LinkWatch.Proofs.Address.Arithmetic
import LinkWatch.Proofs.Address.Dotted
import LinkWatch.Proofs.Address.Rendering
import LinkWatch.Proofs.Address.Bitwise
import LinkWatch.Proofs.Address.Netmask
import LinkWatch.Proofs.Address.Subnet
import LinkWatch.Proofs.Address.Embedding
import LinkWatch.Proofs.Address.Order
import LinkWatch.Proofs.Address.PrefixNotation
import LinkWatch.Proofs.HardwareAddress
import LinkWatch.Proofs.Monitor.Turns
import LinkWatch.Proofs.Channel
import LinkWatch.Proofs.Host.Enumeration
import LinkWatch.Proofs.Host.Routes
import LinkWatch.Proofs.Host.WellFormed
import LinkWatch.Proofs.Difference.Filtered
import LinkWatch.Proofs.Settings.Acceptance
import LinkWatch.Proofs.Settings.Template
import LinkWatch.Proofs.Address.Capacity
import LinkWatch.Proofs.Monitor.Bookkeeping
