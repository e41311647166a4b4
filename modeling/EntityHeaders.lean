import EntityHeaders.Message
import EntityHeaders.Session
import EntityHeaders.Proofs.Instant
import EntityHeaders.Proofs.Values
import EntityHeaders.Proofs.Reading
import EntityHeaders.Proofs.Checks
import EntityHeaders.Proofs.Decoding
import EntityHeaders.Proofs.RoundTrip
import EntityHeaders.Proofs.Frame
import EntityHeaders.Proofs.Soundness
import EntityHeaders.Proofs.Faults
import EntityHeaders.Proofs.Wire
import EntityHeaders.Proofs.Collections
import EntityHeaders.Proofs.DateTexts
import EntityHeaders.Proofs.Losses
import EntityHeaders.Proofs.DayCount
import EntityHeaders.Proofs.UniversalTime
import EntityHeaders.Proofs.WrittenDates
import EntityHeaders.Proofs.Base64Forms
import EntityHeaders.Proofs.HeaderValues
import EntityHeaders.Proofs.Utf8
import EntityHeaders.Proofs.Written
import EntityHeaders.Proofs.Served
import EntityHeaders.Proofs.Received
import EntityHeaders.Proofs.Gates
import EntityHeaders.Proofs.Copies
import EntityHeaders.Proofs.Notes
import EntityHeaders.Proofs.Spellings
import EntityHeaders.Proofs.Refusals
import EntityHeaders.Proofs.Messages
