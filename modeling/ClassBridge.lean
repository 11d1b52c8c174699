import ClassBridge.Attribute.Grammar
import ClassBridge.Descriptor
import ClassBridge.Machine.Scripted
import ClassBridge.Proofs.Attribute.ReadingOrder
import ClassBridge.Proofs.Derive.Respacing
import ClassBridge.Proofs.Naming.ClassDescriptor
import ClassBridge.Proofs.Registry.Declared
import ClassBridge.Proofs.Session.Attempts
import ClassBridge.Proofs.Session.Coverage
import ClassBridge.Proofs.Session.Retrying
import ClassBridge.Proofs.Session.Spelling
import ClassBridge.Proofs.Text.Acceptance
import ClassBridge.Proofs.Text.Equality
import ClassBridge.Proofs.Text.Evaluation
import ClassBridge.Proofs.Text.Modified
import ClassBridge.Proofs.Text.Numeral
import ClassBridge.Proofs.Text.Placement
import ClassBridge.Proofs.Text.Replacement
import ClassBridge.Session.Program
