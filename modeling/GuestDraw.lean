import GuestDraw.Display
import GuestDraw.Failure
import GuestDraw.Flags
import GuestDraw.Flags.Families
import GuestDraw.GuestCall
import GuestDraw.GuestCall.Fault
import GuestDraw.Interface.Descriptor
import GuestDraw.Interface.Method
import GuestDraw.Memory
import GuestDraw.Memory.Aperture
import GuestDraw.Memory.ByteStore
import GuestDraw.Memory.Error
import GuestDraw.Memory.Heap
import GuestDraw.Memory.LittleEndian
import GuestDraw.Objects.Handle
import GuestDraw.Objects.Payload
import GuestDraw.Objects.Surface
import GuestDraw.Objects.Synchronisation
import GuestDraw.Objects.Table
import GuestDraw.Overwrite
import GuestDraw.Pixel.Binary24
import GuestDraw.Pixel.Buffer
import GuestDraw.Pixel.Colour
import GuestDraw.Pixel.Conversion
import GuestDraw.Pixel.Error
import GuestDraw.Pixel.Format
import GuestDraw.Pixel.Matching
import GuestDraw.Pixel.Patch
import GuestDraw.Pixel.Raster
import GuestDraw.Pixel.Rect
import GuestDraw.Pixel.Sampling
import GuestDraw.Pixel.Transfer
import GuestDraw.Proofs.Objects.Closing
import GuestDraw.Proofs.Objects.Draining
import GuestDraw.Proofs.Objects.InPlace
import GuestDraw.Proofs.Objects.Links
import GuestDraw.Proofs.Objects.Lookup
import GuestDraw.Proofs.Objects.Numbering
import GuestDraw.Proofs.Objects.Payloads
import GuestDraw.Proofs.Objects.Teardown
import GuestDraw.Proofs.Objects.WellFormed
import GuestDraw.Proofs.Session.Calls
import GuestDraw.Proofs.Session.Creating
import GuestDraw.Proofs.Session.Ends
import GuestDraw.Proofs.Session.Groundwork
import GuestDraw.Proofs.Session.Housekeeping
import GuestDraw.Session
import GuestDraw.Session.Contents
import GuestDraw.Session.Creation
import GuestDraw.Session.Dispatch
import GuestDraw.Session.Drawing
import GuestDraw.Session.FrameBuffer
import GuestDraw.Session.Locking
import GuestDraw.Session.Palettes
import GuestDraw.Session.Queries
import GuestDraw.Session.Vtable
import GuestDraw.Status
import GuestDraw.Stubs
import GuestDraw.Text.Hex
import GuestDraw.Text.Quoted
import GuestDraw.Text.Unprintable
import GuestDraw.Proofs.Objects.Balance
import GuestDraw.Proofs.Session.Sharing
import GuestDraw.Proofs.Session.Conservation
import GuestDraw.Proofs.Session.Accounts
import GuestDraw.Proofs.Pixel.Codec
import GuestDraw.Proofs.Objects.Attached
import GuestDraw.Proofs.Session.Portraits
import GuestDraw.Proofs.Session.Layout
import GuestDraw.Proofs.Session.Coherence
import GuestDraw.Proofs.Session.Turnover
import GuestDraw.Proofs.Session.Transparency
import GuestDraw.Proofs.Pixel.Rasters
import GuestDraw.Proofs.Pixel.RoundTrip
import GuestDraw.Proofs.Session.Steps
import GuestDraw.Proofs.Session.Inheritance
import GuestDraw.Proofs.Session.Caches
import GuestDraw.Proofs.Session.Sites
import GuestDraw.Proofs.Session.Separation
import GuestDraw.Proofs.Session.Screen
import GuestDraw.Proofs.GuestCall.Frames
import GuestDraw.Proofs.GuestCall.Nesting
import GuestDraw.Proofs.Session.Colours
import GuestDraw.Proofs.Session.Pointers
import GuestDraw.Proofs.Session.Modes
import GuestDraw.Proofs.Session.Primaries
import GuestDraw.Proofs.Session.Failures
import GuestDraw.Proofs.Session.Answers
import GuestDraw.Proofs.Session.Mappings
import GuestDraw.Proofs.Interface.Records
import GuestDraw.Proofs.Session.Stores
import GuestDraw.Proofs.Session.Heeding
import GuestDraw.Proofs.Session.Slots
import GuestDraw.Proofs.Session.Blocks
import GuestDraw.Proofs.Session.Descriptions
import GuestDraw.Proofs.Pixel.Clipping
import GuestDraw.Proofs.Session.Refusals
import GuestDraw.Proofs.Interface.Flags
import GuestDraw.Proofs.Session.Requests
import GuestDraw.Proofs.Pixel.Decoding
import GuestDraw.Proofs.Session.FlipChains
import GuestDraw.Proofs.Session.Room
import GuestDraw.Proofs.Session.Fitting
import GuestDraw.Proofs.Session.Locks
import GuestDraw.Proofs.Pixel.Nearest
import GuestDraw.Proofs.Pixel.Packing
import GuestDraw.Proofs.Pixel.Verbatim
import GuestDraw.Proofs.Pixel.Copying
import GuestDraw.Proofs.Pixel.Widening
import GuestDraw.Proofs.Pixel.Stretching
import GuestDraw.Proofs.GuestCall.Stack
import GuestDraw.Proofs.Session.Order
import GuestDraw.Proofs.Session.Users
import GuestDraw.Proofs.Session.Entries
import GuestDraw.Proofs.Session.Fastness
import GuestDraw.Proofs.Session.Recolouring
import GuestDraw.Proofs.Session.Halting
import GuestDraw.Proofs.Session.Replies
import GuestDraw.Proofs.Memory.Allocation
import GuestDraw.Proofs.Memory.Pages
import GuestDraw.Proofs.Memory.Filling
import GuestDraw.Proofs.Memory.Accesses
import GuestDraw.Proofs.Interface.Wire
import GuestDraw.Proofs.Session.Contexts
import GuestDraw.Proofs.Session.Pitches
import GuestDraw.Proofs.Objects.Exclusion
import GuestDraw.Proofs.Objects.Descent
import GuestDraw.Proofs.Pixel.Overlaps
import GuestDraw.Proofs.Pixel.Storage
import GuestDraw.Proofs.Pixel.Strokes
