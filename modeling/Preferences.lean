import Preferences.Proofs.Adapters
import Preferences.Proofs.Agreement
import Preferences.Proofs.Alike
import Preferences.Proofs.Audiences
import Preferences.Proofs.Binding
import Preferences.Proofs.Bisimulation
import Preferences.Proofs.Clearing
import Preferences.Proofs.Collecting
import Preferences.Proofs.Conflicts
import Preferences.Proofs.Contents
import Preferences.Proofs.Defaults
import Preferences.Proofs.Delegation
import Preferences.Proofs.Delivery
import Preferences.Proofs.DerivedKeys
import Preferences.Proofs.Documented
import Preferences.Proofs.Generation
import Preferences.Proofs.Guards
import Preferences.Proofs.Implementation
import Preferences.Proofs.Insertion
import Preferences.Proofs.KeyNames
import Preferences.Proofs.Lifecycle
import Preferences.Proofs.Literals
import Preferences.Proofs.Marks
import Preferences.Proofs.Members
import Preferences.Proofs.NativeTypes
import Preferences.Proofs.Observed
import Preferences.Proofs.Opening
import Preferences.Proofs.Pairs
import Preferences.Proofs.Parentheses
import Preferences.Proofs.Parsing
import Preferences.Proofs.Puts
import Preferences.Proofs.RawNames
import Preferences.Proofs.Renaming
import Preferences.Proofs.Reordering
import Preferences.Proofs.Required
import Preferences.Proofs.Respelling
import Preferences.Proofs.RoundTrip
import Preferences.Proofs.Runs
import Preferences.Proofs.TypeForms
import Preferences.Proofs.TypeIdentity
import Preferences.Proofs.Uniformity
import Preferences.Proofs.Watching
import Preferences.Proofs.WellFormed
import Preferences.Proofs.WrittenForms
import Preferences.Schema.Compile
import Preferences.Session.Basic
import Preferences.Session.Feed
