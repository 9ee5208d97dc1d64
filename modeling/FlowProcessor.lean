import FlowProcessor.Main
import FlowProcessor.Proofs.Forwarding.Effect
import FlowProcessor.Proofs.Forwarding.Protocol
import FlowProcessor.Proofs.Forwarding.Atomicity
import FlowProcessor.Proofs.Forwarding.Isolation
import FlowProcessor.Proofs.Forwarding.Histories
import FlowProcessor.Proofs.Forwarding.Retention
import FlowProcessor.Proofs.Forwarding.Mtus
import FlowProcessor.Proofs.Groups.Runs
import FlowProcessor.Proofs.Groups.Independence
import FlowProcessor.Proofs.CrossReference.Calls
import FlowProcessor.Proofs.Platform.Atomicity
import FlowProcessor.Proofs.Platform.Persistence
import FlowProcessor.Proofs.Platform.Setup
import FlowProcessor.Proofs.Platform.Cursors
import FlowProcessor.Proofs.CommandLine.Help
import FlowProcessor.Proofs.CommandLine.Actions
import FlowProcessor.Proofs.Tools.ForwardingTool
import FlowProcessor.Proofs.Tools.Processes
import FlowProcessor.Proofs.IdSets.FiniteSets
import FlowProcessor.Proofs.Reading.Numbers
import FlowProcessor.Proofs.Groups.Notations
import FlowProcessor.Proofs.CommandLine.Plans
import FlowProcessor.Proofs.Tools.PortsTool
import FlowProcessor.Proofs.StatusWords
import FlowProcessor.Proofs.Reading.Specifications
import FlowProcessor.Proofs.Reading.Diagnostics
import FlowProcessor.Proofs.Platform.Omissions
