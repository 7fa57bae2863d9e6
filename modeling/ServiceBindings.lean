import ServiceBindings.Main
import ServiceBindings.Web.Standard
import ServiceBindings.Proofs.Document.Reordering
import ServiceBindings.Proofs.Schema.Position
import ServiceBindings.Proofs.Schema.Written
import ServiceBindings.Proofs.Schema.Dereferencing
import ServiceBindings.Proofs.Schema.GuardedWalk
import ServiceBindings.Proofs.Schema.Congruence
import ServiceBindings.Proofs.Schema.Unfolding
import ServiceBindings.Proofs.Document.Inlining
import ServiceBindings.Proofs.Document.Following
import ServiceBindings.Proofs.Document.Addressing
import ServiceBindings.Proofs.Schema.Retention
import ServiceBindings.Proofs.Schema.Commuting
import ServiceBindings.Proofs.TypeScript.Commented
import ServiceBindings.Proofs.TypeScript.Inlining
import ServiceBindings.Proofs.TypeScript.Termination
import ServiceBindings.Proofs.TypeScript.Entering
import ServiceBindings.Proofs.TypeScript.Preresolving
import ServiceBindings.Proofs.TypeScript.Woven
import ServiceBindings.Proofs.TypeScript.Emitted
import ServiceBindings.Proofs.TypeScript.Rooted
import ServiceBindings.Proofs.TypeScript.Scanning
import ServiceBindings.Proofs.TypeScript.Precedence
import ServiceBindings.Proofs.TypeScript.Alternatives
import ServiceBindings.Proofs.TypeScript.Nullability
import ServiceBindings.Proofs.TypeScript.Declaration
import ServiceBindings.Proofs.TypeScript.Tokens
import ServiceBindings.Proofs.Operation.Building
import ServiceBindings.Proofs.Operation.Members
import ServiceBindings.Proofs.Operation.Assembly
import ServiceBindings.Proofs.Operation.Reordering
import ServiceBindings.Proofs.Operation.Replacing
import ServiceBindings.Proofs.Operation.Selection
import ServiceBindings.Proofs.Operation.Collisions
import ServiceBindings.Proofs.Workspace.Performing
import ServiceBindings.Proofs.Workspace.Places
import ServiceBindings.Proofs.Workspace.Effects
import ServiceBindings.Proofs.TypeScript.Essence
import ServiceBindings.Proofs.Operation.Transparency
import ServiceBindings.Proofs.Schema.Completion
import ServiceBindings.Proofs.Settings.Overriding
import ServiceBindings.Proofs.Workspace.Delivery
import ServiceBindings.Proofs.Workspace.Interrupts
import ServiceBindings.Proofs.Workspace.Loading
import ServiceBindings.Proofs.Workspace.Fetching
import ServiceBindings.Proofs.Workspace.Rendering
import ServiceBindings.Proofs.Workspace.Generating
import ServiceBindings.Proofs.CommandLine.Ending
import ServiceBindings.Proofs.Json.Limits
import ServiceBindings.Proofs.Json.Writing
import ServiceBindings.Proofs.TypeScript.Keys
import ServiceBindings.Proofs.TypeScript.Closure
import ServiceBindings.Proofs.TypeScript.Enumerated
import ServiceBindings.Proofs.TypeScript.LineFeeds
import ServiceBindings.Proofs.Module.Imports
import ServiceBindings.Proofs.Module.Indentation
import ServiceBindings.Proofs.Module.Blocks
import ServiceBindings.Proofs.TypeScript.TemplateText
import ServiceBindings.Proofs.Operation.RequestPath
import ServiceBindings.Proofs.Operation.Names
