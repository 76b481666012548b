import SimuladorSO.Memoria.Plana
import SimuladorSO.Memoria.Ampliacion
import SimuladorSO.Memoria.Escrituras
import SimuladorSO.Memoria.Limites
import SimuladorSO.Cpu.Coherencia
import SimuladorSO.Cpu.Reemplazo
import SimuladorSO.Cpu.Instrucciones
import SimuladorSO.Cpu.Copias
import SimuladorSO.Cpu.Denegaciones
import SimuladorSO.Cpu.Aritmetica
import SimuladorSO.Kernel.Atencion
import SimuladorSO.Kernel.Semaforos
import SimuladorSO.Kernel.Desalojos
import SimuladorSO.Kernel.Interfaces
import SimuladorSO.Kernel.Despacho
import SimuladorSO.Kernel.Planificacion
import SimuladorSO.Kernel.Nodos
import SimuladorSO.Kernel.Carreras
import SimuladorSO.Kernel.Relojes
import SimuladorSO.Kernel.Multiprogramacion
import SimuladorSO.Kernel.ListasDeEstados
import SimuladorSO.Kernel.Extraccion
import SimuladorSO.Kernel.Nombres
import SimuladorSO.Kernel.Orden
import SimuladorSO.Sistema.Estado
import SimuladorSO.Sistema.Turnos
import SimuladorSO.Sistema.Terminacion
import SimuladorSO.Sistema.PedidosIo
import SimuladorSO.Sistema.Scripts
import SimuladorSO.Sistema.Contextos
import SimuladorSO.Sistema.Tablas
import SimuladorSO.Sistema.IdaYVuelta
import SimuladorSO.Sistema.Avance
import SimuladorSO.DialFS.Empaquetado
import SimuladorSO.DialFS.Operandos
import SimuladorSO.DialFS.Reinicio
import SimuladorSO.Utils.Contexto
import SimuladorSO.Utils.Decodificacion
