import Templating.Description
import Templating.Person
import Templating.Proofs.Builder
import Templating.Proofs.Program.Grammar
import Templating.Proofs.Services.Building
import Templating.Proofs.Services.Cleanup
import Templating.Proofs.Services.Exchange
import Templating.Proofs.Services.Honesty
import Templating.Proofs.Services.Refinement
import Templating.Services.Patch
import Templating.Session.Building
import Templating.Session.Units
import Templating.Session.Values
import Templating.Settings.Toml
import Templating.Template.Draft
import Templating.Proofs.Services.ExactBounds
import Templating.Proofs.Services.Stages
import Templating.Proofs.Services.Collisions
import Templating.Proofs.Services.Units
import Templating.Proofs.Program.Diagnosis
import Templating.Proofs.Services.Purging
import Templating.Proofs.Program.Operands
import Templating.Proofs.Template.Shortcut
import Templating.Proofs.Text.Unambiguous
