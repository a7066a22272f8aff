import LocalNet.Endpoint
import LocalNet.Main
import LocalNet.Proofs.AcceptedTexts
import LocalNet.Proofs.AddressLists
import LocalNet.Proofs.AddressText
import LocalNet.Proofs.Attributions
import LocalNet.Proofs.BoundedReads
import LocalNet.Proofs.Broadcasts
import LocalNet.Proofs.BufferWrites
import LocalNet.Proofs.CommandLines
import LocalNet.Proofs.CommandRuns
import LocalNet.Proofs.EndpointHosts
import LocalNet.Proofs.Endpoints
import LocalNet.Proofs.Gateways
import LocalNet.Proofs.InterfaceFlags
import LocalNet.Proofs.InterfaceQuestions
import LocalNet.Proofs.Interfaces
import LocalNet.Proofs.JsonTexts
import LocalNet.Proofs.LeadingNumerals
import LocalNet.Proofs.LinkAddresses
import LocalNet.Proofs.LinkAttributes
import LocalNet.Proofs.Memberships
import LocalNet.Proofs.NetworkForms
import LocalNet.Proofs.NetworkText
import LocalNet.Proofs.Numerals
import LocalNet.Proofs.Partitions
import LocalNet.Proofs.PortTexts
import LocalNet.Proofs.PortVerdicts
import LocalNet.Proofs.PrintedNetworks
import LocalNet.Proofs.Printing
import LocalNet.Proofs.PrivilegedPorts
import LocalNet.Proofs.Probes
import LocalNet.Proofs.SectionMembership
import LocalNet.Proofs.Sections
import LocalNet.Proofs.Splitting
import LocalNet.Proofs.StaticAddress
import LocalNet.Proofs.StaticAnswers
import LocalNet.Proofs.Storage
import LocalNet.Proofs.TextLayouts
import LocalNet.Proofs.ToolRuns
import LocalNet.Proofs.WholeFiles
