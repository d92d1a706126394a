import ActorRegistry.Json
import ActorRegistry.Messages
import ActorRegistry.State
import ActorRegistry.Handlers
import ActorRegistry.Sweep
import ActorRegistry.Run
import ActorRegistry.Interleaving
import ActorRegistry.Loop
import ActorRegistry.Server
import ActorRegistry.ClientSocket
import ActorRegistry.Client
import ActorRegistry.Control
import ActorRegistry.Link
