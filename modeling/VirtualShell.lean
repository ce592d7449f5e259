import VirtualShell.Main
import VirtualShell.Proofs.FileSystem.WriteThrough
import VirtualShell.Proofs.Session.Protected
import VirtualShell.Proofs.Session.Restored
import VirtualShell.Proofs.Tree.Lookup
import VirtualShell.Proofs.Session.Lookup
import VirtualShell.Proofs.FileSystem.Decision
import VirtualShell.Proofs.Session.Placed
import VirtualShell.Proofs.FileSystem.Opening
import VirtualShell.Proofs.Tree.Outline
import VirtualShell.Proofs.FileSystem.Relocation
import VirtualShell.Proofs.Session.Relocated
import VirtualShell.Proofs.Tree.Merged
import VirtualShell.Proofs.FileSystem.Mark
import VirtualShell.Proofs.Session.Marked
import VirtualShell.Proofs.FileSystem.Edited
import VirtualShell.Proofs.Session.Edited
import VirtualShell.Proofs.FileSystem.Damage
import VirtualShell.Proofs.FileSystem.Redirection
import VirtualShell.Proofs.Session.Underway
import VirtualShell.Proofs.Session.Redirect
import VirtualShell.Proofs.Session.Escape
import VirtualShell.Proofs.Path.Resolution
import VirtualShell.Proofs.Pipeline
import VirtualShell.Proofs.Session.Execution
import VirtualShell.Proofs.Session.PathArgument
import VirtualShell.Proofs.Session.WorkingDirectory
import VirtualShell.Proofs.Markup
import VirtualShell.Proofs.Session.Plain
import VirtualShell.Proofs.Session.Listing
import VirtualShell.Proofs.Session.Search
import VirtualShell.Proofs.Session.Piped
import VirtualShell.Proofs.Reply.Obeyed
import VirtualShell.Proofs.Reply.Block
import VirtualShell.Proofs.Store.Calls
import VirtualShell.Proofs.Session.History
import VirtualShell.Proofs.Store.Way
import VirtualShell.Proofs.Store.Atomicity
import VirtualShell.Proofs.FileSystem.Unreadable
import VirtualShell.Proofs.FileSystem.Readiness
import VirtualShell.Proofs.Session.Returning
import VirtualShell.Proofs.Session.Loop
import VirtualShell.Proofs.CommandLine.Program
import VirtualShell.Proofs.Text.Wrap
import VirtualShell.Proofs.Bubble
import VirtualShell.Proofs.Session.Creation
import VirtualShell.Proofs.FileSystem.Copies
import VirtualShell.Proofs.Path.Ancestry
import VirtualShell.Proofs.Tree.Labelled
import VirtualShell.Proofs.Session.Assistant
