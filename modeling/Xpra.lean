import Xpra.Library.Loop
import Xpra.Library.Machine
import Xpra.Net.Sha256
import Xpra.Client.Host
import Xpra.Net.Uri
import Xpra.Proofs.MmapFiles
import Xpra.Proofs.DialogTarget
import Xpra.Proofs.DialogCancel
import Xpra.Client.Window
import Xpra.Client.Dispatch
import Xpra.Client.System
import Xpra.Proofs.Framing
import Xpra.Proofs.PacketLanguage
import Xpra.Proofs.WebsocketReading
import Xpra.Proofs.FrameInterleaving
import Xpra.Proofs.Destride
import Xpra.Proofs.Framebuffer
import Xpra.Proofs.PcmQueue
import Xpra.Proofs.Sha256
import Xpra.Proofs.RemoteCommand
import Xpra.Proofs.MmapToken
import Xpra.Proofs.PacketFields
import Xpra.Proofs.Challenge
import Xpra.Proofs.MmapHandshake
import Xpra.Proofs.DrawAck
import Xpra.Proofs.PointerGrab
import Xpra.Proofs.InternalTypes
import Xpra.Proofs.ExitLatch
import Xpra.Proofs.ClipboardAgreement
import Xpra.Proofs.CommandLine
import Xpra.Proofs.BinaryFields
import Xpra.Proofs.AudioStream
import Xpra.Proofs.AudioSync
import Xpra.Proofs.Blit
import Xpra.Proofs.MmapVerification
import Xpra.Proofs.WebsocketFrames
import Xpra.Proofs.WebsocketEmpty
import Xpra.Proofs.WebsocketBuffers
import Xpra.Proofs.SshArguments
import Xpra.Proofs.MmapRing
import Xpra.Proofs.Handshake
import Xpra.Proofs.Monitors
import Xpra.Proofs.CivilDays
import Xpra.Proofs.PaintSource
import Xpra.Proofs.Jitter
import Xpra.Proofs.AudioStamps
import Xpra.Proofs.PinTranscript
import Xpra.Proofs.PasswordEditors
import Xpra.Proofs.Lettering
import Xpra.Proofs.Playback
import Xpra.Proofs.PlaybackThread
import Xpra.Proofs.Video
import Xpra.Proofs.VideoThread
import Xpra.Proofs.RemoteLogger
import Xpra.Proofs.Screen
import Xpra.Proofs.Pixels
import Xpra.Proofs.MmapPeers
import Xpra.Proofs.DialogSecrecy
import Xpra.Proofs.PacketStream
import Xpra.Proofs.Upstream
