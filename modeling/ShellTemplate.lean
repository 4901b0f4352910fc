import ShellTemplate.Json.Writer
import ShellTemplate.Log.Entry
import ShellTemplate.Main
import ShellTemplate.Proofs.Template.Composition
import ShellTemplate.Proofs.Template.Keys
import ShellTemplate.Proofs.Template.Malformed
import ShellTemplate.Serial.Key
import ShellTemplate.Session
import ShellTemplate.VersionLine
import ShellTemplate.Proofs.Template.Asking
import ShellTemplate.Proofs.Template.Units
import ShellTemplate.Proofs.Text.Trim
import ShellTemplate.Proofs.Template.Names
import ShellTemplate.Proofs.Template.Defaults
import ShellTemplate.Proofs.Context.Choice
import ShellTemplate.Proofs.Template.Captured
import ShellTemplate.Proofs.Template.Quoting
import ShellTemplate.Proofs.Template.Borders
import ShellTemplate.Proofs.Template.Separators
import ShellTemplate.Proofs.Template.Staging
import ShellTemplate.Proofs.Template.Misses
import ShellTemplate.Proofs.Template.Thinning
import ShellTemplate.Proofs.Command.Result
import ShellTemplate.Proofs.Command.Failing
import ShellTemplate.Proofs.Template.Switching
import ShellTemplate.Proofs.Session.Rendering
import ShellTemplate.Proofs.Command.Isolation
import ShellTemplate.Proofs.Properties.Assigned
import ShellTemplate.Proofs.Properties.Loading
import ShellTemplate.Proofs.Serial.Serializable
import ShellTemplate.Proofs.Help.Showing
import ShellTemplate.Proofs.Command.Literally
import ShellTemplate.Proofs.Log.Observing
import ShellTemplate.Proofs.Version.Finding
import ShellTemplate.Proofs.Template.Partition
