import Handycam.Capture
import Handycam.Segmentation
import Handycam.Sink
import Handycam.Sync
import Handycam.Oracle
import Handycam.Session
import Handycam.Initialization
import Handycam.Extractor
import Handycam.Quality
import Handycam.Flush
import Handycam.Alsa
import Handycam.Alignment
import Handycam.Contiguity
import Handycam.Latency
import Handycam.Limit
import Handycam.Malformed
import Handycam.Mailbox
import Handycam.Yuyv
import Handycam.Delay
import Handycam.Faults
import Handycam.Selector
import Handycam.Order
import Handycam.Loss
import Handycam.Presentation
import Handycam.Shutdown
import Handycam.Retry
import Handycam.Statistics
import Handycam.ReplayCapture
import Handycam.ReplayFrames
import Handycam.CaptureFile
import Handycam.Extraction
import Handycam.Arecord
import Handycam.Transport
