import Claudia5gc.Ausf.Confirmation
import Claudia5gc.Udm.AuthData
import Claudia5gc.Amf.Slices
import Claudia5gc.Amf.KeyChain
import Claudia5gc.Amf.EchoedSlice
import Claudia5gc.Amf.SliceAuthorization
import Claudia5gc.Amf.SliceAgreement
import Claudia5gc.Amf.UplinkCount
import Claudia5gc.Amf.Algorithms
import Claudia5gc.Amf.SessionRelease
import Claudia5gc.Amf.Resynchronisation
import Claudia5gc.Amf.DownlinkFraming
import Claudia5gc.Amf.ServiceRequest
import Claudia5gc.Upf.Enforcement
import Claudia5gc.Upf.ChecksumRepair
import Claudia5gc.Upf.Isolation
import Claudia5gc.Smf.SecondaryAuth
import Claudia5gc.Smf.Handover
import Claudia5gc.Smf.UserPlane
import Claudia5gc.Smf.Recovery
import Claudia5gc.Smf.SessionAMBR
import Claudia5gc.Amf.PeriodicTimer
import Claudia5gc.Amf.RegistrationArea
import Claudia5gc.Amf.SuciText
import Claudia5gc.Nas.CommandRoundTrip
import Claudia5gc.Nas.UplinkInsertion
import Claudia5gc.Amf.Ngap.Hijack
import Claudia5gc.Amf.Ngap.PathSwitch
import Claudia5gc.Amf.PlainUplink
import Claudia5gc.Crypto.EapAkaPacket
import Claudia5gc.Nrf.AccessToken
import Claudia5gc.Pcf.SmPolicy
import Claudia5gc.Bsf.Store
import Claudia5gc.Amf.SerialQueue
import Claudia5gc.Crypto.KdfInputs
import Claudia5gc.Gsm7
import Claudia5gc.Smsf.Server
import Claudia5gc.Lmf.Location
